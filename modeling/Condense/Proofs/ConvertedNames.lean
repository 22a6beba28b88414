import Condense.Proofs.SettingNames
import Mathlib.Data.Set.Function
import Mathlib.Tactic.Lemma

/-!
# Names in two forms

Camel case and snake case are two forms of the same names: over ASCII each form determines the
other. A value whose names are all in one form is therefore brought to the other form and back
without a loss, as far as renaming follows it into its depth.
-/

namespace Condense.Proofs

section Letters

/-- A capital letter. -/
def isCapital (p : CodePoint) : Bool := p.is fun c => 'A' ≤ c && c ≤ 'Z'

/-- A small letter. -/
def isSmall (p : CodePoint) : Bool := p.is fun c => 'a' ≤ c && c ≤ 'z'

/-- A capital letter as a small one. -/
def lowered : CodePoint → CodePoint
  | .char c => .char (if 'A' ≤ c && c ≤ 'Z' then Char.ofNat (c.toNat + 32) else c)
  | p => p

variable {p : CodePoint} {t : Text}

/-- What holds of the first 128 characters holds of every code point of ASCII. -/
lemma forall_ascii {motive : CodePoint → Prop} (h : ∀ n < 0x80, motive (.char (Char.ofNat n)))
    (hp : p.code < 0x80) : motive p := by
  cases p with
  | char c => exact Char.ofNat_toNat c ▸ h c.toNat hp
  | half unit =>
    have hcode : (CodePoint.half unit).code = 0xD800 + unit := rfl
    omega

lemma ascii_of_isSmall (h : isSmall p = true) : p.code < 0x80 := by
  cases p with
  | char c =>
    have hle : c ≤ 'z' := of_decide_eq_true (Bool.and_eq_true_iff.mp h).2
    exact Nat.lt_of_le_of_lt (Char.le_def.mp hle) (by decide)
  | half unit => exact nomatch h

lemma not_capital_of_small (h : isSmall p = true) : isCapital p = false := by
  refine forall_ascii (motive := fun p => isSmall p = true → isCapital p = false) ?_
    (ascii_of_isSmall h) h
  decide +kernel

lemma ne_underscore_of_small (h : isSmall p = true) : p ≠ .char '_' := by
  rintro rfl
  exact absurd h (by decide)

end Letters

section Words

variable {p : CodePoint} {rest t : Text}

/-- The words of a name in camel case, each with an underscore in front. -/
def words (t : Text) : Text :=
  t.flatMap fun p => if isCapital p then [.char '_', lowered p] else [p]

/-- What stands behind the first character of a name in snake case. -/
inductive Tail : Text → Prop where
  | nil : Tail []
  | keep {p : CodePoint} {rest : Text} (hascii : p.code < 0x80) (hsmall : isCapital p = false)
      (hkeep : p ≠ .char '_') (hrest : Tail rest) : Tail (p :: rest)
  | word {p : CodePoint} {rest : Text} (hsmall : isSmall p = true) (hrest : Tail rest) :
      Tail (.char '_' :: p :: rest)

namespace Tail

lemma plain (h : Tail t) : Ascii t ∧ ∀ p ∈ t, isCapital p = false := by
  induction h with
  | nil => exact ⟨nofun, nofun⟩
  | keep hascii hsmall _ _ ih =>
    exact ⟨List.forall_mem_cons.mpr ⟨hascii, ih.1⟩, List.forall_mem_cons.mpr ⟨hsmall, ih.2⟩⟩
  | word hsmall _ ih =>
    exact ⟨List.forall_mem_cons.mpr ⟨by decide,
        List.forall_mem_cons.mpr ⟨ascii_of_isSmall hsmall, ih.1⟩⟩,
      List.forall_mem_cons.mpr ⟨by decide,
        List.forall_mem_cons.mpr ⟨not_capital_of_small hsmall, ih.2⟩⟩⟩

lemma followed (h : Tail t) {i : Nat} (hi : t[i]? = some (.char '_')) :
    ∃ p ∈ t[i + 1]?, isSmall p = true := by
  induction h generalizing i with
  | nil => exact nomatch hi
  | keep _ _ hkeep _ ih =>
    cases i with
    | zero => exact absurd (Option.some.inj hi) hkeep
    | succ i => exact ih hi
  | @word p rest hsmall _ ih =>
    cases i with
    | zero => exact ⟨p, rfl, hsmall⟩
    | succ i =>
      cases i with
      | zero => exact absurd (Option.some.inj hi) (ne_underscore_of_small hsmall)
      | succ i => exact ih hi

lemma of_followed : ∀ {t : Text}, Ascii t → (∀ p ∈ t, isCapital p = false) →
    (∀ i, t[i]? = some (.char '_') → ∃ p ∈ t[i + 1]?, isSmall p = true) → Tail t
  | [], _, _, _ => .nil
  | p :: rest, hascii, hsmall, hwords => by
    by_cases hp : p = .char '_'
    · obtain ⟨q, hq, hqsmall⟩ := hwords 0 (congrArg some hp)
      cases rest with
      | nil => exact nomatch hq
      | cons q' rest =>
        cases hq
        rw [hp]
        exact .word hqsmall (of_followed
          (fun r hr => hascii r (List.mem_cons_of_mem p (List.mem_cons_of_mem q hr)))
          (fun r hr => hsmall r (List.mem_cons_of_mem p (List.mem_cons_of_mem q hr)))
          fun i hi => hwords (i + 2) hi)
    · exact .keep (hascii p List.mem_cons_self) (hsmall p List.mem_cons_self) hp (of_followed
        (fun r hr => hascii r (List.mem_cons_of_mem p hr))
        (fun r hr => hsmall r (List.mem_cons_of_mem p hr)) fun i hi => hwords (i + 1) hi)
  termination_by t => t.length

end Tail

end Words

section Forms

variable {t : Text}

/-- ASCII without capital letters, with no underscore at the front and a small letter behind every
underscore. -/
structure Snake (t : Text) : Prop where
  ascii : Ascii t
  small : ∀ p ∈ t, isCapital p = false
  start : .char '_' ∉ t.head?
  followed : ∀ i, t[i]? = some (.char '_') → ∃ p ∈ t[i + 1]?, isSmall p = true

lemma Snake.tail (h : Snake t) : Tail t := .of_followed h.ascii h.small h.followed

lemma Tail.snake (h : Tail t) (hstart : .char '_' ∉ t.head?) : Snake t :=
  ⟨h.plain.1, h.plain.2, hstart, fun _ hi => h.followed hi⟩

end Forms

section Documents

/-- Every name in the value belongs to a set, and no dictionary in it has a name twice. -/
inductive Named (names : Set Text) : Value → Prop where
  | null : Named names .null
  | bool (b : Bool) : Named names (.bool b)
  | int (n : Int) : Named names (.int n)
  | real (x : Binary64) : Named names (.real x)
  | text (t : Text) : Named names (.text t)
  | list {items : List Value} (hitems : ∀ v ∈ items, Named names v) : Named names (.list items)
  | dict {members : List (Key × Value)} (hdistinct : (members.map (·.1)).Nodup)
      (hnames : ∀ member ∈ members, ∃ name ∈ names, member.1 = .text name)
      (hvalues : ∀ member ∈ members, Named names member.2) : Named names (.dict members)

/-- A value stands in another one, at whatever depth. -/
inductive Inside (u : Value) : Value → Prop where
  | self : Inside u u
  | item {v : Value} {items : List Value} (hv : v ∈ items) (h : Inside u v) :
      Inside u (.list items)
  | value {member : Key × Value} {members : List (Key × Value)} (hmember : member ∈ members)
      (h : Inside u member.2) : Inside u (.dict members)

/-- Renaming a dictionary keeps its members apart and in their order. -/
structure KeepsMembers (f : Text → Text) (members : List (Key × Value)) : Prop where
  apart : (members.map fun member => member.1.rename f).Nodup
  order : (Value.dict members).rename f =
    .dict (members.map fun member => (member.1.rename f, member.2.rename f))

variable {f g : Text → Text} {before after : Set Text} {v : Value} {members : List (Key × Value)}

lemma keepsMembers_of_injOn (hf : Set.InjOn f before) (hdistinct : (members.map (·.1)).Nodup)
    (hnames : ∀ member ∈ members, ∃ name ∈ before, member.1 = .text name) :
    KeepsMembers f members := by
  have hnodup : ((members.map (·.1)).map (Key.rename f)).Nodup := by
    refine hdistinct.map_on fun k hk l hl heq => ?_
    obtain ⟨first, hfirst, rfl⟩ := List.mem_map.mp hk
    obtain ⟨second, hsecond, rfl⟩ := List.mem_map.mp hl
    obtain ⟨name, hname, hkey⟩ := hnames first hfirst
    obtain ⟨name', hname', hkey'⟩ := hnames second hsecond
    rw [hkey, hkey'] at heq ⊢
    exact congrArg Key.text (hf hname hname' (Key.text.inj heq))
  have hpairs : ((members.map fun member => (member.1.rename f, member.2.rename f)).map
      (·.1)).Nodup := by
    rw [List.map_map] at hnodup ⊢
    exact hnodup
  rw [List.map_map] at hnodup
  refine ⟨hnodup, ?_⟩
  rw [Value.rename, renameMembers_eq_map, ofList_of_distinct (fun pair hpair => ?_) hpairs]
  obtain ⟨member, hmember, rfl⟩ := List.mem_map.mp hpair
  obtain ⟨name, -, hkey⟩ := hnames member hmember
  exact ⟨f name, congrArg (Key.rename f) hkey⟩

namespace Named

/-- What stands in a value has its names from the same set. -/
lemma of_inside {names : Set Text} {u : Value} (h : Inside u v) (hv : Named names v) :
    Named names u := by
  induction h with
  | self => exact hv
  | item hmem _ ih =>
    cases hv with
    | list hitems => exact ih (hitems _ hmem)
  | value hmember _ ih =>
    cases hv with
    | dict _ _ hvalues => exact ih (hvalues _ hmember)

theorem keepsMembers (hf : Set.InjOn f before) (h : Named before v)
    (hinside : Inside (.dict members) v) : KeepsMembers f members := by
  cases of_inside hinside h with
  | dict hdistinct hnames _ => exact keepsMembers_of_injOn hf hdistinct hnames

/-- The names of one set become names of the other. -/
theorem rename (hmaps : Set.MapsTo f before after) (hf : Set.InjOn f before)
    (h : Named before v) : Named after (v.rename f) := by
  induction h with
  | null => exact .null
  | bool b => exact .bool b
  | int n => exact .int n
  | real x => exact .real x
  | text t => exact .text t
  | @list items hitems ih =>
    rw [Value.rename, renameItems_eq_map]
    exact .list (List.forall_mem_map.mpr ih)
  | @dict members hdistinct hnames hvalues ih =>
    have hkeeps := keepsMembers_of_injOn hf hdistinct hnames
    have hapart := hkeeps.apart
    rw [hkeeps.order]
    refine .dict ?_ (List.forall_mem_map.mpr fun member hmember => ?_) (List.forall_mem_map.mpr ih)
    · rw [List.map_map]
      exact hapart
    · obtain ⟨name, hname, hkey⟩ := hnames member hmember
      exact ⟨f name, hmaps hname, congrArg (Key.rename f) hkey⟩

/-- The old names come back. -/
theorem rename_back (hmaps : Set.MapsTo f before after) (hback : Set.LeftInvOn g f before)
    (hg : Set.InjOn g after) (h : Named before v) : (v.rename f).rename g = v := by
  induction h with
  | null | bool | int | real | text => rfl
  | @list items hitems ih =>
    rw [Value.rename, renameItems_eq_map, Value.rename, renameItems_eq_map, List.map_map]
    exact congrArg Value.list ((List.map_congr_left ih).trans (List.map_id items))
  | @dict members hdistinct hnames hvalues ih =>
    have horder := (keepsMembers_of_injOn hback.injOn hdistinct hnames).order
    have hrenamed := rename hmaps hback.injOn (.dict hdistinct hnames hvalues)
    rw [horder] at hrenamed
    rw [horder, (keepsMembers hg hrenamed .self).order, List.map_map]
    refine congrArg Value.dict ((List.map_congr_left fun member hmember => ?_).trans
      (List.map_id members))
    obtain ⟨name, hname, hkey⟩ := hnames member hmember
    have hname' : (member.1.rename f).rename g = member.1 := by
      rw [hkey]
      exact congrArg Key.text (hback hname)
    exact Prod.ext hname' (ih member hmember)

/-- Renaming changes nothing about how deep a value is. -/
theorem exceeds_rename (hf : Set.InjOn f before) (h : Named before v) (room : Nat) :
    (v.rename f).exceeds room = v.exceeds room := by
  induction h generalizing room with
  | null | bool | int | real | text => rfl
  | @list items hitems ih =>
    have hdepths : (items.map (Value.rename f)).map (Value.exceeds (room - 1)) =
        items.map (Value.exceeds (room - 1)) := by
      rw [List.map_map]
      exact List.map_congr_left fun v hv => ih v hv (room - 1)
    have hany := congrArg (List.any · id) hdepths
    simp only [List.any_map, Function.id_comp] at hany
    rw [Value.rename, renameItems_eq_map, Value.exceeds, Value.exceeds, itemsExceed_eq_any,
      itemsExceed_eq_any, List.any_map, hany]
  | @dict members hdistinct hnames hvalues ih =>
    have hdepths : members.map (fun member => (member.2.rename f).exceeds (room - 1)) =
        members.map fun member => member.2.exceeds (room - 1) :=
      List.map_congr_left fun member hmember => ih member hmember (room - 1)
    have hany := congrArg (List.any · id) hdepths
    simp only [List.any_map] at hany
    rw [(keepsMembers_of_injOn hf hdistinct hnames).order, Value.exceeds, Value.exceeds,
      membersExceed_eq_any, membersExceed_eq_any, List.any_map]
    exact congrArg (room == 0 || ·) hany

end Named

end Documents

section Nested

/-- So many lists inside one another. -/
def nested : Nat → Value
  | 0 => .null
  | n + 1 => .list [nested n]

end Nested

end Condense.Proofs
