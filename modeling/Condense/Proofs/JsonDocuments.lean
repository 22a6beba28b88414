import Condense.Proofs.ValueParts
import Condense.Text.Encoding

/-!
# Documents read back

Whatever can be written is read back as the value that its document holds, whatever the depth and the
order of its members. Only texts may change, where they hold halves of a surrogate pair beside one
another; names that become the same in this way name one member. The text of a document is ASCII, so
that its bytes are its characters.
-/

namespace Condense.Proofs
open Json

/-- A value that a document can hold, with at most `room` lists and dictionaries inside one another:
null, truth values, integers within the digit limit, texts, lists, and dictionaries whose keys are
different texts. -/
inductive Documentable : Nat → Value → Prop where
  | null (room : Nat) : Documentable room .null
  | bool (room : Nat) (b : Bool) : Documentable room (.bool b)
  | int (room : Nat) {n : Int} (hdigits : digitsObstacle? n = none) : Documentable room (.int n)
  | text (room : Nat) {t : Text} (hspell : isSpellable t = true) : Documentable room (.text t)
  | list {room : Nat} {items : List Value} (hroom : room ≠ 0)
      (hitems : ∀ v ∈ items, Documentable (room - 1) v) : Documentable room (.list items)
  | dict {room : Nat} {members : List (Key × Value)} (hroom : room ≠ 0)
      (hdistinct : (members.map (·.1)).Nodup)
      (hnames : ∀ member ∈ members, ∃ name, member.1 = .text name ∧ isSpellable name = true)
      (hvalues : ∀ member ∈ members, Documentable (room - 1) member.2) :
      Documentable room (.dict members)

/-- A value that has a document, with any texts and numbers in it. -/
inductive Legible : Nat → Value → Prop where
  | null (room : Nat) : Legible room .null
  | bool (room : Nat) (b : Bool) : Legible room (.bool b)
  | int (room : Nat) {n : Int} (hdigits : digitsObstacle? n = none) : Legible room (.int n)
  | real (room : Nat) (x : Binary64) : Legible room (.real x)
  | text (room : Nat) (t : Text) : Legible room (.text t)
  | list {room : Nat} {items : List Value} (hroom : room ≠ 0)
      (hitems : ∀ v ∈ items, Legible (room - 1) v) : Legible room (.list items)
  | dict {room : Nat} {members : List (Key × Value)} (hroom : room ≠ 0)
      (hdistinct : (members.map (·.1)).Nodup)
      (hnames : ∀ member ∈ members, ∃ name, member.1 = .text name ∧ isSpellable name = true)
      (hvalues : ∀ member ∈ members, Legible (room - 1) member.2) :
      Legible room (.dict members)

mutual

/-- The value that the document of a value holds. -/
def respelled : Value → Value
  | .text t => .text (respell t)
  | .list items => .list (respelledItems items)
  | .dict members => .dict (respelledMembers members)
  | v => v

def respelledItems : List Value → List Value
  | [] => []
  | v :: vs => respelled v :: respelledItems vs

def respelledMembers : List (Key × Value) → List (Key × Value)
  | [] => []
  | (k, v) :: rest => (k, respelled v) :: respelledMembers rest

end

mutual

/-- The value that the document of a value holds. Names that have become the same in the document name
one member, which has the first place and the last value. -/
def held : Value → Value
  | .text t => .text (respell t)
  | .bytes octets => .text (respell (Text.quotedBytes octets))
  | .list items => .list (heldItems items)
  | .dict members => .dict (heldMembers [] members)
  | v => v

def heldItems : List Value → List Value
  | [] => []
  | v :: vs => held v :: heldItems vs

/-- What the document makes of some members behind others. -/
def heldMembers (done : List (Key × Value)) : List (Key × Value) → List (Key × Value)
  | [] => done
  | (k, v) :: rest => heldMembers (Assoc.put (.text (respell (keyText k))) (held v) done) rest

end

lemma respelledMembers_eq_map (members : List (Key × Value)) :
    respelledMembers members = members.map fun member => (member.1, respelled member.2) := by
  induction members with
  | nil => rfl
  | cons member rest ih => rw [respelledMembers, ih, List.map_cons]

lemma respelledItems_eq_self {items : List Value} (h : ∀ v ∈ items, respelled v = v) :
    respelledItems items = items := by
  induction items with
  | nil => rfl
  | cons v vs ih =>
    rw [respelledItems, h v List.mem_cons_self, ih fun w hw => h w (List.mem_cons_of_mem v hw)]

lemma respelledMembers_eq_self {members : List (Key × Value)}
    (h : ∀ member ∈ members, respelled member.2 = member.2) :
    respelledMembers members = members := by
  induction members with
  | nil => rfl
  | cons member rest ih =>
    rw [respelledMembers, h member List.mem_cons_self,
      ih fun other hother => h other (List.mem_cons_of_mem member hother)]

section Documentable

variable {room : Nat} {v : Value}

theorem Documentable.legible (h : Documentable room v) : Legible room v := by
  induction h with
  | null room => exact .null room
  | bool room b => exact .bool room b
  | int room hdigits => exact .int room hdigits
  | @text room t hspell => exact .text room t
  | list hroom hitems ih => exact .list hroom ih
  | dict hroom hdistinct hnames hvalues ih => exact .dict hroom hdistinct hnames ih

theorem Documentable.respelled_eq (h : Documentable room v) : respelled v = v := by
  induction h with
  | null | bool | int => rfl
  | text room hspell => rw [respelled, respell_of_isSpellable hspell]
  | list hroom hitems ih => rw [respelled, respelledItems_eq_self ih]
  | dict hroom hdistinct hnames hvalues ih => rw [respelled, respelledMembers_eq_self ih]

end Documentable

/-- Bytes stand somewhere in a value. -/
inductive HoldsBytes : Value → Prop where
  | bytes (octets : List UInt8) : HoldsBytes (.bytes octets)
  | item {items : List Value} {v : Value} (hv : v ∈ items) (hbytes : HoldsBytes v) :
      HoldsBytes (.list items)
  | member {members : List (Key × Value)} {entry : Key × Value} (hentry : entry ∈ members)
      (hbytes : HoldsBytes entry.2) : HoldsBytes (.dict members)

section Obstacles

variable {room : Nat}

lemma itemsObstacle?_eq_none {items : List Value} :
    itemsObstacle? room items = none ↔ ∀ v ∈ items, obstacle? room v = none := by
  induction items with
  | nil => simp [itemsObstacle?]
  | cons v vs ih => simp [itemsObstacle?, ih]

lemma membersObstacle?_eq_none {members : List (Key × Value)} :
    membersObstacle? room members = none ↔
      ∀ member ∈ members, keyObstacle? member.1 = none ∧ obstacle? room member.2 = none := by
  induction members with
  | nil => simp [membersObstacle?]
  | cons member rest ih => simp [membersObstacle?, ih]

theorem Legible.writable {v : Value} (h : Legible room v) : obstacle? room v = none := by
  induction h with
  | null | bool | real | text => rfl
  | int room hdigits => exact hdigits
  | list hroom hitems ih =>
    unfold obstacle?
    rw [if_neg hroom]
    exact itemsObstacle?_eq_none.mpr ih
  | dict hroom hdistinct hnames hvalues ih =>
    unfold obstacle?
    rw [if_neg hroom]
    refine membersObstacle?_eq_none.mpr fun member hmember => ⟨?_, ih member hmember⟩
    obtain ⟨name, hname, -⟩ := hnames member hmember
    rw [hname]
    rfl

theorem Documentable.writable {v : Value} (h : Documentable room v) : obstacle? room v = none :=
  h.legible.writable

theorem HoldsBytes.unwritable {v : Value} (h : HoldsBytes v) : obstacle? room v ≠ none := by
  induction h generalizing room with
  | bytes octets => nofun
  | item hv hbytes ih =>
    intro hnone
    unfold obstacle? at hnone
    split at hnone
    case isTrue => contradiction
    case isFalse => exact ih (itemsObstacle?_eq_none.mp hnone _ hv)
  | member hentry hbytes ih =>
    intro hnone
    unfold obstacle? at hnone
    split at hnone
    case isTrue => contradiction
    case isFalse => exact ih (membersObstacle?_eq_none.mp hnone _ hentry).2

end Obstacles

section Put

variable {name : Text} {v : Value} {table : List (Key × Value)}

lemma mem_put {entry : Key × Value} (h : entry ∈ Assoc.put (.text name) v table) :
    entry = (.text name, v) ∨ entry ∈ table :=
  Assoc.mem_put Key.eq_of_beq_text h

lemma mem_put_self : (Key.text name, v) ∈ Assoc.put (.text name) v table := by
  induction table with
  | nil => exact List.mem_cons_self
  | cons first rest ih =>
    rw [Assoc.put, Key.beq_text]
    split
    case isTrue hsame =>
      rw [decide_eq_true_eq] at hsame
      exact List.mem_cons.mpr (Or.inl (by rw [hsame]))
    case isFalse => exact List.mem_cons_of_mem first ih

lemma mem_of_get? (h : Assoc.get? (.text name) table = some v) : (Key.text name, v) ∈ table := by
  induction table with
  | nil => contradiction
  | cons entry rest ih =>
    rw [Assoc.get?, Key.beq_text] at h
    split at h
    case isTrue hname =>
      obtain rfl : entry.2 = v := Option.some.inj h
      rw [← of_decide_eq_true hname]
      exact List.mem_cons_self
    case isFalse => exact List.mem_cons_of_mem entry (ih h)

/-- Entering a value adds no second member of a name. -/
lemma nodup_put (h : (table.map (·.1)).Nodup) :
    ((Assoc.put (.text name) v table).map (·.1)).Nodup := by
  induction table with
  | nil => exact by simp [Assoc.put]
  | cons first rest ih =>
    rw [List.map_cons, List.nodup_cons] at h
    rw [Assoc.put, Key.beq_text]
    split
    case isTrue hsame => exact List.nodup_cons.mpr h
    case isFalse hother =>
      rw [decide_eq_true_eq] at hother
      refine List.nodup_cons.mpr ⟨fun hmem => ?_, ih h.2⟩
      obtain ⟨entry, hentry, hkey⟩ := List.mem_map.mp hmem
      rcases mem_put hentry with hnew | hrest
      · exact hother (hkey.symm.trans (congrArg Prod.fst hnew))
      · exact h.1 (List.mem_map.mpr ⟨entry, hrest, hkey⟩)

lemma Legible.put {room : Nat} (h : Legible room (.dict table)) (hname : isSpellable name = true)
    (hv : Legible (room - 1) v) : Legible room (.dict (Assoc.put (.text name) v table)) := by
  cases h with
  | dict hroom hdistinct hnames hvalues =>
    refine .dict hroom (nodup_put hdistinct) (fun entry hentry => ?_) fun entry hentry => ?_
    · rcases mem_put hentry with rfl | hold
      · exact ⟨name, rfl, hname⟩
      · exact hnames entry hold
    · rcases mem_put hentry with rfl | hold
      · exact hv
      · exact hvalues entry hold

lemma respelledMembers_put (key : Key) (v : Value) (table : List (Key × Value)) :
    respelledMembers (Assoc.put key v table) =
      Assoc.put key (respelled v) (respelledMembers table) := by
  induction table with
  | nil => rfl
  | cons first rest ih =>
    rw [Assoc.put, respelledMembers, Assoc.put]
    split
    case isTrue => rfl
    case isFalse => rw [respelledMembers, ih]

end Put

section Appended

variable (style : Style) {depth : Nat}

lemma foldr_escapePoint_append (t after : Text) :
    t.foldr (fun p rest => escapePoint style p ++ rest) after =
      t.flatMap (escapePoint style) ++ after := by
  induction t with
  | nil => rfl
  | cons p rest ih => rw [List.foldr_cons, ih, List.flatMap_cons, List.append_assoc]

lemma renderText_append (t after : Text) :
    renderText style t after = renderText style t [] ++ after := by
  unfold renderText
  rw [foldr_escapePoint_append, foldr_escapePoint_append]
  simp

lemma length_renderText (t after : Text) : after.length ≤ (renderText style t after).length := by
  rw [renderText_append, List.length_append]
  omega

lemma renderItems_append {items : List Value} (after : Text)
    (h : ∀ v ∈ items, ∀ after,
      renderOnto style depth after v = renderOnto style depth [] v ++ after) :
    renderItems style depth after items = renderItems style depth [] items ++ after := by
  induction items with
  | nil => rfl
  | cons v vs ih =>
    have hv := h v List.mem_cons_self
    have hvs := ih fun w hw => h w (List.mem_cons_of_mem v hw)
    rw [renderItems, renderItems, hv (renderItems style depth after vs), hvs,
      hv (renderItems style depth [] vs)]
    simp only [List.append_assoc]

lemma renderMembers_append {members : List (Key × Value)} (after : Text)
    (h : ∀ member ∈ members, ∀ after,
      renderOnto style depth after member.2 = renderOnto style depth [] member.2 ++ after) :
    renderMembers style depth after members = renderMembers style depth [] members ++ after := by
  induction members with
  | nil => rfl
  | cons member rest ih =>
    have hv := h member List.mem_cons_self
    have hrest := ih fun other hother => h other (List.mem_cons_of_mem member hother)
    rw [renderMembers, renderMembers, renderText_append style _ (_ ++ _), hv (renderMembers ..),
      hrest, renderText_append style _ (_ ++ renderOnto ..), hv (renderMembers style depth [] rest)]
    simp only [List.append_assoc]

lemma renderDict_append {members : List (Key × Value)} (after : Text)
    (h : ∀ member ∈ members, ∀ after, renderOnto style (depth + 1) after member.2 =
      renderOnto style (depth + 1) [] member.2 ++ after) :
    renderOnto style depth after (.dict members) =
      renderOnto style depth [] (.dict members) ++ after := by
  cases members with
  | nil => simp [renderOnto]
  | cons member rest =>
    have hv := h member List.mem_cons_self
    have hrest : ∀ after, renderMembers style (depth + 1) after rest =
        renderMembers style (depth + 1) [] rest ++ after := fun after =>
      renderMembers_append style after fun other hother =>
        h other (List.mem_cons_of_mem member hother)
    rw [renderOnto, renderOnto, renderText_append, renderText_append style _ (_ ++ renderOnto ..),
      hv (renderMembers ..), hrest, hv (renderMembers ..), hrest (_ ++ [CodePoint.char '\x7d'])]
    simp

/-- What follows a value stands behind its text. -/
theorem render_append (v : Value) (after : Text) :
    renderOnto style depth after v = renderOnto style depth [] v ++ after := by
  induction v using value_induction generalizing depth after with
  | null | bool | int | real => simp [renderOnto]
  | text t => exact renderText_append style _ after
  | bytes octets => exact renderText_append style _ after
  | list items ih =>
    cases items with
    | nil => simp [renderOnto]
    | cons v vs =>
      have hv : ∀ after, renderOnto style (depth + 1) after v =
          renderOnto style (depth + 1) [] v ++ after := ih v List.mem_cons_self
      have hvs : ∀ after, renderItems style (depth + 1) after vs =
          renderItems style (depth + 1) [] vs ++ after := fun after =>
        renderItems_append style after fun w hw => ih w (List.mem_cons_of_mem v hw)
      rw [renderOnto, renderOnto, hv (renderItems ..), hvs, hv (renderItems ..),
        hvs (_ ++ [CodePoint.char ']'])]
      simp
  | dict members ih => exact renderDict_append style after fun member hmember => ih member hmember

end Appended

section Readings

/-- A value is read back from its text, wherever it stands and whatever may follow it. -/
def ReadsBack (room : Nat) (v : Value) : Prop :=
  ∀ fuel depth after, endsNumber after = true →
    (renderOnto .file depth after v).length ≤ fuel →
      readValue fuel room (renderOnto .file depth after v) = .ok (held v, after)

/-- The text of a value begins with a character that is neither white space nor a closing bracket.
-/
lemma render_head (v : Value) (depth : Nat) (after : Text) :
    ∃ c rest, renderOnto .file depth after v = .char c :: rest ∧ isGap c = false ∧ c ≠ ']' := by
  cases v with
  | null => exact ⟨'n', _, rfl, by decide, by decide⟩
  | bool b => cases b <;> exact ⟨_, _, rfl, by decide, by decide⟩
  | int n =>
    obtain ⟨d, ds, hd, -, htext⟩ := integerText_cases n
    rw [renderOnto, htext]
    split
    · exact ⟨'-', _, rfl, by decide, by decide⟩
    · refine ⟨d, _, rfl, ?_, (ne_of_isDigit (by decide) hd).symm⟩
      have hspace := ne_of_isDigit (c := ' ') (by decide) hd
      have htab := ne_of_isDigit (c := '\t') (by decide) hd
      have hline := ne_of_isDigit (c := '\n') (by decide) hd
      have hreturn := ne_of_isDigit (c := '\r') (by decide) hd
      simp [isGap, hspace.symm, htab.symm, hline.symm, hreturn.symm]
  | real x =>
    obtain ⟨c, cs, hchars, hgap, hc⟩ := chars_head x
    refine ⟨c, Text.ofChars cs ++ after, ?_, hgap, fun hclose => hc ?_⟩
    · rw [renderOnto, hchars]
      rfl
    · rw [hclose]
      decide
  | text | bytes => exact ⟨'"', _, rfl, by decide, by decide⟩
  | list items => cases items <;> exact ⟨'[', _, rfl, by decide, by decide⟩
  | dict members => cases members <;> exact ⟨'\x7b', _, rfl, by decide, by decide⟩

lemma skipGap_cons {c : Char} (h : isGap c = false) (rest : Text) :
    skipGap (.char c :: rest) = .char c :: rest :=
  List.dropWhile_cons_of_neg (by simpa [CodePoint.is] using h)

lemma skipGap_gap (depth : Nat) (t : Text) : skipGap (gap .file depth ++ t) = skipGap t := by
  have hspaces : ∀ n, skipGap (List.replicate n (.char ' ') ++ t) = skipGap t := by
    intro n
    induction n with
    | zero => rfl
    | succ n ih =>
      rw [List.replicate_succ]
      exact ih
  exact hspaces (2 * depth)

lemma length_gap (depth : Nat) : (gap .file depth).length = 2 * depth + 1 := by
  change (CodePoint.char '\n' :: List.replicate (2 * depth) (CodePoint.char ' ')).length = _
  rw [List.length_cons, List.length_replicate]

lemma skipGap_renderText (t after : Text) :
    skipGap (renderText .file t after) = renderText .file t after := rfl

lemma skipGap_render (v : Value) (depth : Nat) (after : Text) :
    skipGap (renderOnto .file depth after v) = renderOnto .file depth after v := by
  obtain ⟨c, rest, htext, hgap, -⟩ := render_head v depth after
  rw [htext, skipGap_cons hgap]

lemma length_render (v : Value) (depth : Nat) (after : Text) :
    after.length < (renderOnto .file depth after v).length := by
  obtain ⟨c, rest, htext, -⟩ := render_head v depth []
  rw [render_append, htext, List.length_append, List.length_cons]
  omega

section Steps

variable {fuel room : Nat} {t rest after : Text} {v : Value}

lemma readItems_last (done : List Value) (hread : readValue fuel room t = .ok (v, rest))
    (hclose : skipGap rest = .char ']' :: after) :
    readItems (fuel + 1) room done t = .ok ((v :: done).reverse, after) := by
  rw [readItems, hread]
  dsimp only
  rw [hclose]
  rfl

lemma readItems_further (done : List Value)
    (hread : readValue fuel room t = .ok (v, .char ',' :: rest)) :
    readItems (fuel + 1) room done t = readItems fuel room (v :: done) (skipGap rest) := by
  rw [readItems, hread]
  rfl

lemma skipGap_colon (t : Text) : skipGap (": " ++ t) = .char ':' :: .char ' ' :: t := rfl

lemma skipGap_blank (t : Text) : skipGap (.char ' ' :: t) = skipGap t := rfl

lemma readMembers_last (name : Text) (done : List (Key × Value))
    (hread : readValue fuel room (skipGap t) = .ok (v, rest))
    (hclose : skipGap rest = .char '\x7d' :: after) :
    readMembers (fuel + 1) room done (renderText .file name (": " ++ t)) =
      .ok (Assoc.put (.text (respell name)) v done, after) := by
  unfold renderText
  rw [readMembers, readString_respell]
  simp only [skipGap_colon, skipGap_blank, hread, hclose]

lemma readMembers_further (name : Text) (done : List (Key × Value))
    (hread : readValue fuel room (skipGap t) = .ok (v, .char ',' :: rest)) :
    readMembers (fuel + 1) room done (renderText .file name (": " ++ t)) =
      readMembers fuel room (Assoc.put (.text (respell name)) v done) (skipGap rest) := by
  have hcomma : skipGap (.char ',' :: rest) = .char ',' :: rest := rfl
  unfold renderText
  rw [readMembers, readString_respell]
  simp only [skipGap_colon, skipGap_blank, hread, hcomma]

end Steps

lemma ReadsBack.skipGap {room fuel depth : Nat} {v : Value} {after : Text}
    (h : ReadsBack room v) (hends : endsNumber after = true)
    (hfuel : (renderOnto .file depth after v).length ≤ fuel) :
    readValue fuel room (skipGap (renderOnto .file depth after v)) = .ok (held v, after) := by
  rw [skipGap_render v]
  exact h fuel depth after hends hfuel

/-- The items of a list are read back up to its closing bracket. -/
lemma readItems_render {room depth : Nat} {items : List Value} {v : Value} {fuel : Nat}
    {close after : Text} (done : List Value) (hclose : skipGap close = .char ']' :: after)
    (hends : endsNumber close = true) (hitems : ∀ w ∈ v :: items, ReadsBack room w)
    (hfuel : (renderOnto .file depth (renderItems .file depth close items) v).length < fuel) :
    readItems fuel room done (renderOnto .file depth (renderItems .file depth close items) v) =
      .ok (done.reverse ++ heldItems (v :: items), after) := by
  induction items generalizing v fuel done with
  | nil =>
    obtain ⟨fuel, rfl⟩ : ∃ n, fuel = n + 1 := ⟨fuel - 1, by omega⟩
    have hread := hitems v List.mem_cons_self fuel depth close hends (by
      rw [renderItems] at hfuel
      omega)
    rw [renderItems, readItems_last done hread hclose, List.reverse_cons]
    rfl
  | cons w items ih =>
    obtain ⟨fuel, rfl⟩ : ∃ n, fuel = n + 1 := ⟨fuel - 1, by omega⟩
    have hv := hitems v List.mem_cons_self
    have hrest : ∀ u ∈ w :: items, ReadsBack room u := fun u hu =>
      hitems u (List.mem_cons_of_mem v hu)
    have hlength := length_render v depth (renderItems .file depth close (w :: items))
    have hcomma : renderItems .file depth close (w :: items) =
        .char ',' :: (gap .file depth ++
          renderOnto .file depth (renderItems .file depth close items) w) := rfl
    -- What is left behind the comma is shorter, and its white space is skipped.
    rw [hcomma] at hfuel hlength ⊢
    rw [List.length_cons, List.length_append] at hlength
    rw [readItems_further done (hv fuel depth _ rfl (by omega)), skipGap_gap, skipGap_render w,
      ih (held v :: done) hrest (by omega), List.reverse_cons, List.append_assoc]
    rfl

lemma put_of_not_mem {done : List (Key × Value)} {name : Text} (v : Value)
    (h : Key.text name ∉ done.map (·.1)) :
    Assoc.put (.text name) v done = done ++ [(.text name, v)] :=
  Assoc.put_of_not_mem Key.eq_of_beq_text v h

lemma not_mem_of_distinct {κ : Type} {front back : List κ} {key : κ}
    (h : (front ++ key :: back).Nodup) : key ∉ front := fun hmem =>
  (List.nodup_append.mp h).2.2 key hmem key List.mem_cons_self rfl

/-- The members of a dictionary are read back up to its closing brace, whatever their names are. -/
lemma readMembers_render {room depth : Nat} {members : List (Key × Value)} {key : Key} {v : Value}
    {fuel : Nat} {close after : Text} (done : List (Key × Value))
    (hclose : skipGap close = .char '\x7d' :: after) (hends : endsNumber close = true)
    (hvalues : ∀ entry ∈ (key, v) :: members, ReadsBack room entry.2)
    (hfuel : (renderOnto .file depth (renderMembers .file depth close members) v).length < fuel) :
    readMembers fuel room done (renderText .file (keyText key) (": " ++
      renderOnto .file depth (renderMembers .file depth close members) v)) =
      .ok (heldMembers done ((key, v) :: members), after) := by
  have hv : ReadsBack room v := hvalues (key, v) List.mem_cons_self
  obtain ⟨fuel, rfl⟩ : ∃ n, fuel = n + 1 := ⟨fuel - 1, by omega⟩
  induction members generalizing key v fuel done with
  | nil =>
    rw [renderMembers] at hfuel ⊢
    rw [readMembers_last _ done (hv.skipGap hends (by omega)) hclose]
    rfl
  | cons next members ih =>
    have hrest : ∀ entry ∈ next :: members, ReadsBack room entry.2 := fun entry hentry =>
      hvalues entry (List.mem_cons_of_mem _ hentry)
    have hlength := length_render v depth (renderMembers .file depth close (next :: members))
    have hcomma : renderMembers .file depth close (next :: members) =
        .char ',' :: (gap .file depth ++ renderText .file (keyText next.1)
          (": " ++ renderOnto .file depth (renderMembers .file depth close members) next.2)) := rfl
    have hname := length_renderText .file (keyText next.1)
      (": " ++ renderOnto .file depth (renderMembers .file depth close members) next.2)
    rw [hcomma] at hfuel hlength ⊢
    rw [List.length_cons, List.length_append] at hlength
    rw [List.length_append] at hname
    obtain ⟨fuel, rfl⟩ : ∃ n, fuel = n + 1 := ⟨fuel - 1, by omega⟩
    rw [readMembers_further _ done (hv.skipGap rfl (by omega)), skipGap_gap,
      skipGap_renderText, ih _ hrest (hrest _ List.mem_cons_self) fuel (by omega)]
    rfl

lemma readValue_word (fuel room : Nat) {c : Char} {rest : Text} (hquote : c ≠ '"') (hlist : c ≠ '[')
    (hdict : c ≠ '\x7b') :
    readValue (fuel + 1) room (.char c :: rest) = readWord (.char c :: rest) := by
  unfold readValue
  split
  case h_1 heq => exact absurd (CodePoint.char.inj (List.cons.inj heq).1) hquote
  case h_2 heq => exact absurd (CodePoint.char.inj (List.cons.inj heq).1) hlist
  case h_3 heq => exact absurd (CodePoint.char.inj (List.cons.inj heq).1) hdict
  case h_4 => rfl

lemma readValue_list {fuel room : Nat} {t rest : Text} {c : Char}
    (hgap : skipGap t = .char c :: rest) (hc : c ≠ ']') :
    readValue (fuel + 1) (room + 1) (.char '[' :: t) =
      (readItems fuel room [] (skipGap t)).map fun (items, rest) => (.list items, rest) := by
  rw [readValue, hgap]
  split
  case h_1 heq => exact absurd (CodePoint.char.inj (List.cons.inj heq).1) hc
  case h_2 => rfl

lemma readValue_dict {fuel room : Nat} {t rest : Text} {c : Char}
    (hgap : skipGap t = .char c :: rest) (hc : c ≠ '\x7d') :
    readValue (fuel + 1) (room + 1) (.char '\x7b' :: t) =
      (readMembers fuel room [] (skipGap t)).map fun (members, rest) => (.dict members, rest) := by
  rw [readValue, hgap]
  split
  case h_1 heq => exact absurd (CodePoint.char.inj (List.cons.inj heq).1) hc
  case h_2 => rfl

/-- No text is empty, so that there is always a step to take. -/
lemma readsBack_of_step {room : Nat} {v : Value}
    (hstep : ∀ fuel depth after, endsNumber after = true →
      (renderOnto .file depth after v).length ≤ fuel + 1 →
        readValue (fuel + 1) room (renderOnto .file depth after v) = .ok (held v, after)) :
    ReadsBack room v := by
  intro fuel depth after hends hfuel
  have hlength := length_render v depth after
  obtain ⟨fuel, rfl⟩ : ∃ n, fuel = n + 1 := ⟨fuel - 1, by omega⟩
  exact hstep fuel depth after hends hfuel

lemma readsBack_int (room : Nat) {n : Int} (hdigits : digitsObstacle? n = none) :
    ReadsBack room (.int n) := by
  refine readsBack_of_step fun fuel depth after hends hfuel => ?_
  obtain ⟨d, ds, hd, -, htext⟩ := integerText_cases n
  obtain ⟨c, rest, hhead, hquote, hlist, hdict⟩ :
      ∃ c rest, integerText n ++ after = .char c :: rest ∧ c ≠ '"' ∧ c ≠ '[' ∧ c ≠ '\x7b' := by
    rw [htext]
    split
    · exact ⟨'-', _, rfl, by decide, by decide, by decide⟩
    · exact ⟨d, _, rfl, (ne_of_isDigit (by decide) hd).symm, (ne_of_isDigit (by decide) hd).symm,
        (ne_of_isDigit (by decide) hd).symm⟩
  rw [renderOnto, hhead, readValue_word fuel room hquote hlist hdict, ← hhead,
    readWord_integerText hdigits hends]
  rfl

lemma readsBack_real (room : Nat) (x : Binary64) : ReadsBack room (.real x) := by
  refine readsBack_of_step fun fuel depth after hends hfuel => ?_
  obtain ⟨c, cs, hchars, -, hc⟩ := chars_head x
  have hread := readWord_real x hends
  rw [hchars] at hread
  rw [renderOnto, hchars]
  simp only [List.mem_cons, List.not_mem_nil, or_false, not_or] at hc
  exact (readValue_word fuel room hc.1 hc.2.1 hc.2.2.2).trans hread

lemma readsBack_list {room : Nat} {items : List Value} (hitems : ∀ v ∈ items, ReadsBack room v) :
    ReadsBack (room + 1) (.list items) := by
  refine readsBack_of_step fun fuel depth after hends hfuel => ?_
  cases items with
  | nil => rfl
  | cons v vs =>
    have hclose : skipGap (gap .file depth ++ .char ']' :: after) = .char ']' :: after := by
      rw [skipGap_gap, skipGap_cons (by decide)]
    obtain ⟨c, rest, hhead, hgap, hc⟩ := render_head v (depth + 1)
      (renderItems .file (depth + 1) (gap .file depth ++ .char ']' :: after) vs)
    rw [renderOnto, List.length_cons, List.length_append, length_gap] at hfuel
    rw [renderOnto, readValue_list (by rw [skipGap_gap, hhead, skipGap_cons hgap]) hc, skipGap_gap,
      skipGap_render v, readItems_render [] hclose rfl hitems (by omega)]
    rfl

lemma readsBack_dict {room : Nat} {members : List (Key × Value)}
    (hvalues : ∀ entry ∈ members, ReadsBack room entry.2) :
    ReadsBack (room + 1) (.dict members) := by
  refine readsBack_of_step fun fuel depth after hends hfuel => ?_
  cases members with
  | nil => rfl
  | cons entry rest =>
    have hclose : skipGap (gap .file depth ++ .char '\x7d' :: after) = .char '\x7d' :: after := by
      rw [skipGap_gap, skipGap_cons (by decide)]
    have hname := length_renderText .file (keyText entry.1) (": " ++ renderOnto .file (depth + 1)
      (renderMembers .file (depth + 1) (gap .file depth ++ .char '\x7d' :: after) rest) entry.2)
    rw [renderOnto, List.length_cons, List.length_append, length_gap] at hfuel
    rw [List.length_append] at hname
    rw [renderOnto, readValue_dict (by rw [skipGap_gap, skipGap_renderText]; rfl) (by decide),
      skipGap_gap, skipGap_renderText, readMembers_render [] hclose rfl hvalues (by omega)]
    rfl

/-- Whatever can be written is read back. -/
theorem readsBack_of_writable {room : Nat} {v : Value} (h : obstacle? room v = none) :
    ReadsBack room v := by
  -- By induction on the value: what stands in a list or a dictionary is read back on its own.
  induction v using value_induction generalizing room with
  | null =>
    refine readsBack_of_step fun fuel depth after hends hfuel => ?_
    rw [renderOnto]
    exact readValue_word fuel room (by decide) (by decide) (by decide)
  | bool b =>
    refine readsBack_of_step fun fuel depth after hends hfuel => ?_
    rw [renderOnto]
    cases b <;> exact readValue_word fuel room (by decide) (by decide) (by decide)
  | int n => exact readsBack_int room h
  | real x => exact readsBack_real room x
  | text t =>
    refine readsBack_of_step fun fuel depth after hends hfuel => ?_
    rw [renderOnto, renderText, readValue, readString_respell]
    rfl
  | bytes octets => contradiction
  | list items ih =>
    unfold obstacle? at h
    split at h
    case isTrue => contradiction
    case isFalse hroom =>
      obtain ⟨room, rfl⟩ : ∃ n, room = n + 1 := ⟨room - 1, by omega⟩
      exact readsBack_list fun v hv => ih v hv (itemsObstacle?_eq_none.mp h v hv)
  | dict members ih =>
    unfold obstacle? at h
    split at h
    case isTrue => contradiction
    case isFalse hroom =>
      obtain ⟨room, rfl⟩ : ∃ n, room = n + 1 := ⟨room - 1, by omega⟩
      exact readsBack_dict fun entry hentry =>
        ih entry hentry (membersObstacle?_eq_none.mp h entry hentry).2

end Readings

section Bytes

/-- All characters of a text are ASCII. -/
def Ascii (t : Text) : Prop := ∀ p ∈ t, p.code < 0x80

lemma ascii_nil : Ascii [] := fun _ hp => absurd hp List.not_mem_nil

lemma ascii_append {s t : Text} (hs : Ascii s) (ht : Ascii t) : Ascii (s ++ t) := fun p hp =>
  (List.mem_append.mp hp).elim (hs p) (ht p)

lemma ascii_cons {c : Char} {t : Text} (hc : c.toNat < 0x80) (ht : Ascii t) :
    Ascii (.char c :: t) :=
  ascii_append (s := [.char c]) (by simpa [Ascii, CodePoint.code] using hc) ht

lemma ascii_unitEscape (unit : Nat) : Ascii (unitEscape unit) := by
  have hdigit : ∀ n, (Text.hexDigit (n % 16)).toNat < 0x80 := by
    intro n
    have hall : ∀ k : Fin 16, (Text.hexDigit k).toNat < 0x80 := by decide
    exact hall ⟨n % 16, Nat.mod_lt n (by decide)⟩
  exact ascii_cons (by decide) (ascii_cons (by decide) (ascii_cons (hdigit _) (ascii_cons (hdigit _)
    (ascii_cons (hdigit _) (ascii_cons (hdigit _) ascii_nil)))))

lemma ascii_escapePoint (p : CodePoint) : Ascii (escapePoint .file p) := by
  rcases escapePoint_cases p with ⟨c, -, hc, -, htext⟩ | htext | ⟨-, -, -, hcode, htext⟩
  · rw [htext]
    exact ascii_cons (by decide) (ascii_cons hc ascii_nil)
  · rw [htext]
    unfold pointEscape
    split
    · exact ascii_unitEscape _
    · exact ascii_append (ascii_unitEscape _) (ascii_unitEscape _)
  · rw [htext]
    intro q hq
    rw [List.mem_singleton.mp hq]
    omega

lemma ascii_renderText (t : Text) {after : Text} (h : Ascii after) :
    Ascii (renderText .file t after) := by
  refine ascii_cons (by decide) ?_
  induction t with
  | nil => exact ascii_cons (by decide) h
  | cons p rest ih => exact ascii_append (ascii_escapePoint p) ih

lemma ascii_gap (depth : Nat) : Ascii (gap .file depth) := by
  refine ascii_cons (by decide) fun p hp => ?_
  rw [List.eq_of_mem_replicate hp]
  decide

lemma ascii_ofChars {cs : List Char} (h : ∀ c ∈ cs, c.toNat < 0x80) : Ascii (Text.ofChars cs) := by
  intro p hp
  obtain ⟨c, hc, rfl⟩ := List.mem_map.mp hp
  exact h c hc

lemma ascii_integerText (n : Int) : Ascii (integerText n) := by
  have hdigits : Ascii (Text.ofChars (Nat.toDigits 10 n.natAbs)) :=
    ascii_ofChars fun c hc => ascii_of_isDigit (isDigit_of_mem hc)
  unfold integerText integerChars
  split
  · exact ascii_cons (by decide) hdigits
  · exact hdigits

lemma ascii_renderItems {depth : Nat} {items : List Value} {after : Text} (hafter : Ascii after)
    (h : ∀ v ∈ items, ∀ after, Ascii after → Ascii (renderOnto .file depth after v)) :
    Ascii (renderItems .file depth after items) := by
  induction items with
  | nil => exact hafter
  | cons v vs ih =>
    have hvs := ih fun w hw => h w (List.mem_cons_of_mem v hw)
    exact ascii_cons (by decide) (ascii_append (ascii_gap depth) (h v List.mem_cons_self _ hvs))

lemma ascii_renderMembers {depth : Nat} {members : List (Key × Value)} {after : Text}
    (hafter : Ascii after)
    (h : ∀ entry ∈ members, ∀ after, Ascii after → Ascii (renderOnto .file depth after entry.2)) :
    Ascii (renderMembers .file depth after members) := by
  induction members with
  | nil => exact hafter
  | cons entry rest ih =>
    have hrest := ih fun other hother => h other (List.mem_cons_of_mem entry hother)
    have hv := h entry List.mem_cons_self _ hrest
    have hmember := ascii_renderText (keyText entry.1)
      (ascii_cons (c := ':') (by decide) (ascii_cons (c := ' ') (by decide) hv))
    exact ascii_cons (by decide) (ascii_append (ascii_gap depth) hmember)

lemma ascii_renderDict {depth : Nat} {members : List (Key × Value)} {after : Text}
    (hafter : Ascii after) (h : ∀ entry ∈ members, ∀ after, Ascii after →
      Ascii (renderOnto .file (depth + 1) after entry.2)) :
    Ascii (renderOnto .file depth after (.dict members)) := by
  cases members with
  | nil => exact ascii_append (by unfold Ascii; decide) hafter
  | cons entry rest =>
    have hclose : Ascii (gap .file depth ++ .char '\x7d' :: after) :=
      ascii_append (ascii_gap depth) (ascii_cons (by decide) hafter)
    have hrest : Ascii (renderMembers .file (depth + 1)
        (gap .file depth ++ .char '\x7d' :: after) rest) :=
      ascii_renderMembers hclose fun other hother => h other (List.mem_cons_of_mem entry hother)
    have hv := h entry List.mem_cons_self _ hrest
    have hmember := ascii_renderText (keyText entry.1)
      (ascii_cons (c := ':') (by decide) (ascii_cons (c := ' ') (by decide) hv))
    exact ascii_cons (by decide) (ascii_append (ascii_gap (depth + 1)) hmember)

theorem ascii_render (v : Value) (depth : Nat) {after : Text} (hafter : Ascii after) :
    Ascii (renderOnto .file depth after v) := by
  induction v using value_induction generalizing depth after with
  | null => exact ascii_append (by unfold Ascii; decide) hafter
  | bool b => cases b <;> exact ascii_append (by unfold Ascii; decide) hafter
  | int => exact ascii_append (ascii_integerText _) hafter
  | real x => exact ascii_append (ascii_ofChars (chars_ascii x)) hafter
  | text | bytes => exact ascii_renderText _ hafter
  | list items ih =>
    cases items with
    | nil => exact ascii_append (by unfold Ascii; decide) hafter
    | cons v vs =>
      have hclose : Ascii (gap .file depth ++ .char ']' :: after) :=
        ascii_append (ascii_gap depth) (ascii_cons (by decide) hafter)
      have hvs : Ascii (renderItems .file (depth + 1) (gap .file depth ++ .char ']' :: after) vs) :=
        ascii_renderItems hclose fun w hw _ hafter =>
          ih w (List.mem_cons_of_mem v hw) (depth + 1) hafter
      exact ascii_cons (by decide) (ascii_append (ascii_gap (depth + 1))
        (ih v List.mem_cons_self (depth + 1) hvs))
  | dict members ih =>
    exact ascii_renderDict hafter fun entry hentry _ hafter => ih entry hentry (depth + 1) hafter

lemma encodeUtf8_cons {p : CodePoint} (hp : p.code < 0x80) (rest : Text) :
    Text.encodeUtf8 (p :: rest) = p.code.toUInt8 :: Text.encodeUtf8 rest := by
  unfold Text.encodeUtf8
  rw [List.flatMap_cons, Text.utf8Bytes, if_pos hp]
  rfl

lemma utf8Point?_ascii {p : CodePoint} (hp : p.code < 0x80) (bytes : List UInt8) :
    Text.utf8Point? false (p.code.toUInt8 :: bytes) = some (p, bytes) := by
  have hbyte : p.code.toUInt8.toNat = p.code := by
    rw [Nat.toUInt8_eq, UInt8.toNat_ofNat']
    omega
  have hpoint : CodePoint.char (Char.ofNat p.code) = p := by
    cases p with
    | char c => exact congrArg CodePoint.char (Char.ofNat_toNat c)
    | half unit =>
      change 0xD800 + unit.val < 0x80 at hp
      omega
  unfold Text.utf8Point?
  dsimp only
  rw [hbyte, if_pos hp, hpoint]

/-- ASCII characters are single bytes, and these bytes are read as the characters. -/
lemma readPoints_encodeUtf8 {t : Text} (h : Ascii t) (done : Text) :
    Text.readPoints (Text.utf8Point? false) (Text.encodeUtf8 t).length done (Text.encodeUtf8 t) =
      some (done.reverse ++ t) := by
  induction t generalizing done with
  | nil =>
    change some done.reverse = _
    rw [List.append_nil]
  | cons p rest ih =>
    have hp := h p List.mem_cons_self
    rw [encodeUtf8_cons hp, List.length_cons, Text.readPoints, utf8Point?_ascii hp]
    · dsimp only
      rw [ih (fun q hq => h q (List.mem_cons_of_mem p hq)), List.reverse_cons, List.append_assoc]
      rfl
    · nofun

theorem decodeUtf8?_encodeUtf8 {t : Text} (h : Ascii t) :
    Text.decodeUtf8? (Text.encodeUtf8 t) = some t :=
  readPoints_encodeUtf8 h []

end Bytes

/-- Whatever can be written is read back from its document. White space may follow the document. -/
theorem read_written {v : Value} (h : obstacle? depthLimit v = none) {after : Text}
    (hends : endsNumber after = true) (hgap : skipGap after = []) :
    Json.read (renderOnto .file 0 after v) = .ok (held v) := by
  unfold Json.read
  rw [skipGap_render v, readsBack_of_writable h _ 0 after hends (by omega)]
  dsimp only
  rw [if_pos (List.isEmpty_iff.mpr hgap)]

lemma read_line {v : Value} (h : obstacle? depthLimit v = none) :
    Json.read (render .file v ++ [.char '\n']) = .ok (held v) := by
  have htext : render .file v ++ [.char '\n'] = renderOnto .file 0 [.char '\n'] v :=
    (render_append .file v [.char '\n']).symm
  rw [htext, read_written h rfl rfl]

section Held

lemma heldItems_eq {items : List Value} (h : ∀ v ∈ items, held v = respelled v) :
    heldItems items = respelledItems items := by
  induction items with
  | nil => rfl
  | cons v vs ih =>
    rw [List.forall_mem_cons] at h
    rw [heldItems, respelledItems, h.1, ih h.2]

lemma heldMembers_append (done xs ys : List (Key × Value)) :
    heldMembers done (xs ++ ys) = heldMembers (heldMembers done xs) ys := by
  induction xs generalizing done with
  | nil => rfl
  | cons x xs ih => rw [List.cons_append, heldMembers, heldMembers, ih]

/-- Names that stay different are kept. -/
lemma heldMembers_of_distinct {members : List (Key × Value)} (done : List (Key × Value))
    (hdistinct : (done.map (·.1) ++ members.map (·.1)).Nodup)
    (hnames : ∀ entry ∈ members, ∃ name, entry.1 = .text name ∧ isSpellable name = true) :
    heldMembers done members = done ++ members.map fun entry => (entry.1, held entry.2) := by
  induction members generalizing done with
  | nil => exact (List.append_nil done).symm
  | cons member rest ih =>
    rw [List.forall_mem_cons] at hnames
    obtain ⟨key, v⟩ := member
    obtain ⟨⟨name, rfl, hspell⟩, hnames⟩ := hnames
    -- No member entered so far has this name, so that the new one becomes the last of them.
    have hnew := not_mem_of_distinct hdistinct
    have hdone : done.map (·.1) ++ ((Key.text name, v) :: rest).map (·.1) =
        (done ++ [(Key.text name, held v)]).map (·.1) ++ rest.map (·.1) := by simp
    rw [hdone] at hdistinct
    rw [heldMembers, keyText, respell_of_isSpellable hspell, put_of_not_mem _ hnew,
      ih _ hdistinct hnames, List.append_assoc]
    rfl

lemma map_held {members : List (Key × Value)}
    (h : ∀ entry ∈ members, held entry.2 = respelled entry.2) :
    (members.map fun entry => (entry.1, held entry.2)) = respelledMembers members := by
  rw [respelledMembers_eq_map]
  exact List.map_congr_left fun entry hentry => congrArg (Prod.mk entry.1) (h entry hentry)

theorem Legible.held_eq {room : Nat} {v : Value} (h : Legible room v) : held v = respelled v := by
  induction h with
  | null | bool | int | real | text => rfl
  | list hroom hitems ih => rw [held, respelled, heldItems_eq ih]
  | dict hroom hdistinct hnames hvalues ih =>
    rw [held, respelled, heldMembers_of_distinct [] hdistinct hnames, List.nil_append, map_held ih]

end Held

theorem Legible.read {v : Value} (h : Legible depthLimit v) :
    Json.read (render .file v ++ [.char '\n']) = .ok (respelled v) := by
  rw [read_line h.writable, h.held_eq]

theorem read_render {v : Value} (h : Documentable depthLimit v) :
    Json.read (render .file v ++ [.char '\n']) = .ok v := by
  rw [h.legible.read, h.respelled_eq]

end Condense.Proofs
