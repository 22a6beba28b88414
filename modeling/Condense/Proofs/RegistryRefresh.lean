import Condense.Registry.Refresh
import Mathlib.Tactic.Lemma

/-!
# Refreshing is all or nothing

A refresh either leaves the models as they are or replaces all of them by those of the list that
arrived. An entry that is no model does no harm to the others. The exceptions are faults that a
refresh lets through: an address that cannot be asked for or followed, a list that is too deep to be
read, models that cannot be gone through, and a number beyond the range of its format.
-/

namespace Condense.Proofs

/-- The model that an entry describes, if it describes one. -/
def described? : Value → Option Model
  | .dict members => (Model.ofMembers members).toOption
  | _ => none

/-- What is wrong with an entry that ends the whole refresh: a number beyond its range. -/
def overflow? : Value → Option ConversionFault
  | .dict members =>
    match Model.ofMembers members with
    | .ok _ => none
    | .error why => if why.isOverflow then some why else none
  | _ => none

/-- The list of models in a document, without items if there is no such list. -/
def listed (document : Value) : List Value :=
  match document.member? "models" with
  | some (.list items) => items
  | _ => []

/-- One can go through the value item by item. -/
def isSequence : Value → Bool
  | .null | .bool _ | .int _ | .real _ => false
  | _ => true

/-- The text of a published list arrives. -/
inductive Arrives (registry : Registry) (fetched : Fetched) (t : Text) : Prop where
  | mk {address asked : Address} {response : Response} {contents : List UInt8}
      (haddress : Address.ofText registry.sourceUrl = .ok address)
      (hasked : address.requested = .ok asked) (hhost : asked.hasReadableHost = true)
      (hfetched : fetched = .response response) (hplain : response.isPlain = true)
      (hcontents : response.contents? = some contents) (habsolute : address.isAbsolute = true)
      (hlocation : response.location? = none) (hsuccess : response.isSuccess = true)
      (hsize : contents.length ≤ Registry.sizeLimit)
      (ht : Text.decodeDocument? contents = some t)

/-- The address of a registry cannot be asked for, or a response sends to one that cannot be made
out. -/
inductive Misled (registry : Registry) (fetched : Fetched) (why : AddressFault) : Prop where
  | own (haddress : Address.ofText registry.sourceUrl = .error why) (hcodec : why ≠ .unencodable)
  | asked {address : Address} (haddress : Address.ofText registry.sourceUrl = .ok address)
      (hasked : address.requested = .error why) (hcodec : why ≠ .unencodable)
  | sent {address asked target : Address} {response : Response} {location : Text}
      (haddress : Address.ofText registry.sourceUrl = .ok address)
      (hasked : address.requested = .ok asked) (hhost : asked.hasReadableHost = true)
      (hfetched : fetched = .response response) (hplain : response.isPlain = true)
      (hcontents : response.contents?.isSome = true) (habsolute : address.isAbsolute = true)
      (hlocation : response.location? = some location)
      (htarget : Address.ofText location = .ok target)
      (hreadable : target.scheme.isEmpty = true ∨ target.hasReadableHost = true)
      (hfollow : address.follow target = .error why)

/-- What in a document ends the whole refresh: models of a kind that has no items, or the first
number of an entry that is beyond its range. -/
def blocked? (document : Value) : Option RefreshFault :=
  match document.member? "models" with
  | none => none
  | some (.list items) => (items.findSome? overflow?).map .overflow
  | some models => if isSequence models then none else some (.notIterable models.kind)

/-- The faults that a refresh lets through, and when. -/
inductive Escapes (registry : Registry) (fetched : Fetched) : RefreshFault → Prop where
  | address {why : AddressFault} (h : Misled registry fetched why) :
      Escapes registry fetched (.address why)
  | tooDeep {t : Text} {why : TooDeep} (harrives : Arrives registry fetched t)
      (hread : Json.read t = .error (.tooDeep why)) : Escapes registry fetched (.tooDeep why)
  | blocked {t : Text} {document : Value} {why : RefreshFault}
      (harrives : Arrives registry fetched t) (hread : Json.read t = .ok document)
      (hblocked : blocked? document = some why) : Escapes registry fetched why

lemma modelsOf_cons (entry : Value) (rest : List Value) :
    (Registry.modelsOf (entry :: rest)).2 =
      match overflow? entry with
      | some why => .error (.overflow why)
      | none =>
        match described? entry with
        | some model => (Registry.modelsOf rest).2.map (model :: ·)
        | none => (Registry.modelsOf rest).2 := by
  cases entry with
  | dict members =>
    rw [Registry.modelsOf, overflow?, described?]
    cases Model.ofMembers members with
    | ok model => rfl
    | error why => cases hrange : why.isOverflow <;> simp [hrange, Except.toOption]
  | _ => rfl

/-- The entries are gone through up to the first number that is beyond its range. -/
lemma modelsOf_eq (entries : List Value) :
    (Registry.modelsOf entries).2 =
      match entries.findSome? overflow? with
      | some why => .error (.overflow why)
      | none => .ok (entries.filterMap described?) := by
  induction entries with
  | nil => rfl
  | cons entry rest ih =>
    rw [modelsOf_cons, List.findSome?_cons, List.filterMap_cons, ih]
    cases overflow? entry with
    | some why => rfl
    | none => cases described? entry <;> cases rest.findSome? overflow? <;> rfl

/-- What comes of a document. -/
lemma adopt_outcome (registry : Registry) (document : Value) :
    (registry.adopt document).outcome =
      match blocked? document with
      | some why => .error why
      | none => .ok (true, registry.load ((listed document).filterMap described?)) := by
  cases document with
  | dict members =>
    unfold Registry.adopt Registry.entries blocked? listed
    dsimp only
    rcases (Value.dict members).member? "models" with _ | models
    · rfl
    · cases models with
      | list items =>
        have hmodels := modelsOf_eq items
        dsimp only
        generalize Registry.modelsOf items = read at hmodels ⊢
        obtain ⟨notices, found⟩ := read
        dsimp only at hmodels
        subst hmodels
        cases items.findSome? overflow? <;> rfl
      | _ => rfl
  | _ => rfl

/-- What comes of the text of a list. -/
def taken (registry : Registry) (t : Text) : Except RefreshFault (Bool × Registry) :=
  match Json.read t with
  | .ok document => (registry.adopt document).outcome
  | .error (.tooDeep why) => .error (.tooDeep why)
  | .error _ => .ok (false, registry)

section Refresh

variable {registry : Registry} {fetched : Fetched}

lemma read_outcome (registry : Registry) {contents : List UInt8} {t : Text}
    (hsize : contents.length ≤ Registry.sizeLimit)
    (ht : Text.decodeDocument? contents = some t) :
    (registry.read contents).outcome = taken registry t := by
  unfold Registry.read taken
  rw [if_neg (Nat.not_lt.mpr hsize), ht]
  dsimp only
  rcases Json.read t with (_ | _ | _) | document <;> rfl

lemma refresh_of_arrives {t : Text} (h : Arrives registry fetched t) :
    (registry.refresh fetched).outcome = taken registry t := by
  obtain ⟨haddress, hasked, hhost, rfl, hplain, hcontents, habsolute, hlocation, hsuccess, hsize,
    ht⟩ := h
  unfold Registry.refresh Registry.receive
  rw [haddress]
  dsimp only
  rw [hasked]
  dsimp only
  rw [hhost, hplain, hcontents, habsolute, hlocation, hsuccess]
  exact read_outcome registry hsize ht

lemma refresh_of_misled {why : AddressFault} (h : Misled registry fetched why) :
    (registry.refresh fetched).outcome = .error (.address why) := by
  unfold Registry.refresh
  cases h with
  | own haddress hcodec =>
    rw [haddress]
    cases why <;> first | rfl | contradiction
  | asked haddress hasked hcodec =>
    rw [haddress]
    dsimp only
    rw [hasked]
    cases why <;> first | rfl | contradiction
  | @sent address asked target response location haddress hasked hhost hfetched hplain hcontents
      habsolute hlocation htarget hreadable hfollow =>
    obtain ⟨contents, hcontents⟩ := Option.isSome_iff_exists.mp hcontents
    have hread : (!target.scheme.isEmpty && !target.hasReadableHost) = false := by
      rcases hreadable with hscheme | hhost
      · simp [hscheme]
      · simp [hhost]
    subst hfetched
    rw [haddress]
    dsimp only
    rw [hasked]
    dsimp only
    unfold Registry.receive Registry.redirect
    rw [hhost, hplain, hcontents, habsolute, hlocation]
    dsimp only
    rw [htarget]
    dsimp only
    rw [hread, hfollow]
    rfl

/-- The three ways of a refresh up to the text of a list. -/
inductive Fetches (registry : Registry) (fetched : Fetched) :
    Except RefreshFault (Bool × Registry) → Prop where
  | nothing : Fetches registry fetched (.ok (false, registry))
  | misled {why : AddressFault} (h : Misled registry fetched why) :
      Fetches registry fetched (.error (.address why))
  | arrives {t : Text} (h : Arrives registry fetched t) :
      Fetches registry fetched (taken registry t)

lemma redirect_fetches {address asked : Address} {response : Response} {location : Text}
    (haddress : Address.ofText registry.sourceUrl = .ok address)
    (hasked : address.requested = .ok asked) (hhost : asked.hasReadableHost = true)
    (hplain : response.isPlain = true) (hcontents : response.contents?.isSome = true)
    (habsolute : address.isAbsolute = true) (hlocation : response.location? = some location) :
    Fetches registry (.response response) (registry.redirect address location).outcome := by
  unfold Registry.redirect
  cases htarget : Address.ofText location with
  | error why => exact .nothing
  | ok target =>
    dsimp only
    split
    case isTrue => exact .nothing
    case isFalse hreadable =>
      cases hfollow : address.follow target with
      | error why =>
        refine .misled (.sent haddress hasked hhost rfl hplain hcontents habsolute hlocation htarget
          ?_ hfollow)
        cases hscheme : target.scheme.isEmpty with
        | true => exact Or.inl rfl
        | false => exact Or.inr (by simpa [hscheme] using hreadable)
      | ok target =>
        dsimp only
        split <;> exact .nothing

lemma read_fetches {address asked : Address} {response : Response} {contents : List UInt8}
    (haddress : Address.ofText registry.sourceUrl = .ok address)
    (hasked : address.requested = .ok asked) (hhost : asked.hasReadableHost = true)
    (hplain : response.isPlain = true) (hcontents : response.contents? = some contents)
    (habsolute : address.isAbsolute = true) (hlocation : response.location? = none)
    (hsuccess : response.isSuccess = true) :
    Fetches registry (.response response) (registry.read contents).outcome := by
  by_cases hsize : Registry.sizeLimit < contents.length
  · unfold Registry.read
    rw [if_pos hsize]
    exact .nothing
  · rw [Nat.not_lt] at hsize
    cases ht : Text.decodeDocument? contents with
    | none =>
      unfold Registry.read
      rw [if_neg (Nat.not_lt.mpr hsize), ht]
      exact .nothing
    | some t =>
      rw [read_outcome registry hsize ht]
      exact .arrives (.mk haddress hasked hhost rfl hplain hcontents habsolute hlocation hsuccess
        hsize ht)

lemma receive_fetches {address asked : Address} (response : Response)
    (haddress : Address.ofText registry.sourceUrl = .ok address)
    (hasked : address.requested = .ok asked) (hhost : asked.hasReadableHost = true) :
    Fetches registry (.response response) (registry.receive address response).outcome := by
  unfold Registry.receive
  split
  case isTrue => exact .nothing
  case isFalse hplain =>
    have hplain : response.isPlain = true := by simpa using hplain
    cases hcontents : response.contents? with
    | none => exact .nothing
    | some contents =>
      dsimp only
      split
      case isTrue => exact .nothing
      case isFalse habsolute =>
        have habsolute : address.isAbsolute = true := by simpa using habsolute
        cases hlocation : response.location? with
        | some location =>
          exact redirect_fetches haddress hasked hhost hplain (Option.isSome_of_eq_some hcontents)
            habsolute hlocation
        | none =>
          dsimp only
          split
          case isTrue hsuccess =>
            exact read_fetches haddress hasked hhost hplain hcontents habsolute hlocation hsuccess
          case isFalse => exact .nothing

lemma refresh_fetches (registry : Registry) (fetched : Fetched) :
    Fetches registry fetched (registry.refresh fetched).outcome := by
  unfold Registry.refresh
  cases haddress : Address.ofText registry.sourceUrl with
  | error why =>
    by_cases hcodec : why = .unencodable
    · subst hcodec
      exact .nothing
    · have hmisled : Misled registry fetched why := .own haddress hcodec
      cases why <;> first | exact .misled hmisled | contradiction
  | ok address =>
    dsimp only
    cases hasked : address.requested with
    | error why =>
      by_cases hcodec : why = .unencodable
      · subst hcodec
        exact .nothing
      · have hmisled : Misled registry fetched why := .asked haddress hasked hcodec
        cases why <;> first | exact .misled hmisled | contradiction
    | ok asked =>
      dsimp only
      split
      case isFalse => exact .nothing
      case isTrue hhost =>
        cases fetched with
        | failed why => exact .nothing
        | unreadable why => exact .nothing
        | response response => exact receive_fetches response haddress hasked hhost

/-- The faults arise exactly as said. -/
lemma refresh_eq_error_iff {why : RefreshFault} :
    (registry.refresh fetched).outcome = .error why ↔ Escapes registry fetched why := by
  constructor
  · intro herror
    have hfetches := refresh_fetches registry fetched
    rw [herror] at hfetches
    generalize houtcome : Except.error why = outcome at hfetches
    cases hfetches with
    | nothing => contradiction
    | misled hmisled =>
      cases houtcome
      exact .address hmisled
    | @arrives t harrives =>
      unfold taken at houtcome
      rcases hread : Json.read t with (_ | _ | deep) | document
      · rw [hread] at houtcome
        contradiction
      · rw [hread] at houtcome
        contradiction
      · rw [hread] at houtcome
        cases houtcome
        exact .tooDeep harrives hread
      · rw [hread] at houtcome
        dsimp only at houtcome
        rw [adopt_outcome] at houtcome
        cases hblocked : blocked? document with
        | some fault =>
          rw [hblocked] at houtcome
          cases houtcome
          exact .blocked harrives hread hblocked
        | none =>
          rw [hblocked] at houtcome
          contradiction
  · intro hescapes
    cases hescapes with
    | address hmisled => exact refresh_of_misled hmisled
    | tooDeep harrives hread => rw [refresh_of_arrives harrives, taken, hread]
    | blocked harrives hread hblocked =>
      rw [refresh_of_arrives harrives, taken, hread]
      dsimp only
      rw [adopt_outcome, hblocked]

lemma refresh_of_document {t : Text} {document : Value} (harrives : Arrives registry fetched t)
    (hread : Json.read t = .ok document) (hblocked : blocked? document = none) :
    (registry.refresh fetched).outcome =
      .ok (true, registry.load ((listed document).filterMap described?)) := by
  rw [refresh_of_arrives harrives, taken, hread]
  dsimp only
  rw [adopt_outcome, hblocked]

/-- A refresh that answers has either left the registry alone or taken a document over. -/
lemma refresh_eq_ok {replaced : Bool} {after : Registry}
    (h : (registry.refresh fetched).outcome = .ok (replaced, after)) :
    replaced = false ∧ after = registry ∨
      replaced = true ∧ ∃ t document, Arrives registry fetched t ∧ Json.read t = .ok document ∧
        after = registry.load ((listed document).filterMap described?) := by
  have hfetches := refresh_fetches registry fetched
  rw [h] at hfetches
  generalize houtcome : Except.ok (replaced, after) = outcome at hfetches
  cases hfetches with
  | nothing =>
    cases houtcome
    exact Or.inl ⟨rfl, rfl⟩
  | misled => contradiction
  | @arrives t harrives =>
    unfold taken at houtcome
    rcases hread : Json.read t with (_ | _ | _) | document
    · rw [hread] at houtcome
      cases houtcome
      exact Or.inl ⟨rfl, rfl⟩
    · rw [hread] at houtcome
      cases houtcome
      exact Or.inl ⟨rfl, rfl⟩
    · rw [hread] at houtcome
      contradiction
    · rw [hread] at houtcome
      dsimp only at houtcome
      rw [adopt_outcome] at houtcome
      cases hblocked : blocked? document with
      | some fault =>
        rw [hblocked] at houtcome
        contradiction
      | none =>
        rw [hblocked] at houtcome
        cases houtcome
        exact Or.inr ⟨rfl, t, document, harrives, hread, rfl⟩

end Refresh

/-- A refresh that answers no has left the registry as it was. One that answers yes has replaced the
models by those that the entries of the list describe, whatever else stands between them; a document
without a list leaves no models. It answers unless one of the faults arises that it lets through,
and these arise exactly as said. -/
theorem refresh_all_or_nothing (registry : Registry) (fetched : Fetched) :
    let outcome := (registry.refresh fetched).outcome
    (∀ after, outcome = .ok (false, after) → after = registry) ∧
      (∀ after, outcome = .ok (true, after) ↔
        (∀ why, ¬Escapes registry fetched why) ∧
          ∃ t document, Arrives registry fetched t ∧ Json.read t = .ok document ∧
            after = registry.load ((listed document).filterMap described?) ∧
            ((∀ items, document.member? "models" ≠ some (.list items)) → after.models = [])) ∧
      ∀ why, outcome = .error why ↔ Escapes registry fetched why := by
  dsimp only
  refine ⟨fun after hkept => ?_, fun after => ⟨fun hreplaced => ⟨fun why hescapes => ?_, ?_⟩, ?_⟩,
    fun why => refresh_eq_error_iff⟩
  · rcases refresh_eq_ok hkept with ⟨-, hsame⟩ | ⟨hreplaced, -⟩
    · exact hsame
    · contradiction
  · rw [refresh_eq_error_iff.mpr hescapes] at hreplaced
    contradiction
  · rcases refresh_eq_ok hreplaced with ⟨hkept, -⟩ | ⟨-, t, document, harrives, hread, hafter⟩
    · contradiction
    · refine ⟨t, document, harrives, hread, hafter, fun hnone => ?_⟩
      have hlisted : listed document = [] := by
        unfold listed
        split
        case h_1 items hitems => exact absurd hitems (hnone items)
        case h_2 => rfl
      rw [hafter, hlisted]
      rfl
  · rintro ⟨hanswers, t, document, harrives, hread, hafter, -⟩
    rw [hafter]
    apply refresh_of_document harrives hread
    cases hblocked : blocked? document with
    | none => rfl
    | some why => exact absurd (.blocked harrives hread hblocked) (hanswers why)

/-- A window without end is beyond the range of integers, and the model behind it is lost as well.
-/
example :
    let list : Text := "\x7b\"models\": [\x7b\"id\": \"a\", \"context_window\": 1e400\x7d, " ++
      "\x7b\"id\": \"b\"\x7d]\x7d"
    (({} : Registry).refresh
      (.response ⟨200, [], Text.encodeUtf8 list⟩)).outcome.toOption.isNone := by
  decide +kernel

end Condense.Proofs
