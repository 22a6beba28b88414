import Condense.Estimate
import Condense.Proofs.SettingNames
import Mathlib.Data.List.Forall2
import Mathlib.Tactic.Lemma

/-!
# The order of members

Two values may differ in the order of their members, at whatever depth. Their texts are then of one
length. Where a value can be arranged its text is that of the arranged value, which is the value in
one more order; where its keys are mixed it is shown as it stands, but this befalls the value in
every order. An integer with too many digits has no text, neither arranged nor as it stands: a value
that holds one has no size in any order.
-/

namespace Condense.Proofs
open Json

/-- Values that differ in nothing but the order of members. -/
inductive Reordered : Value → Value → Prop where
  | refl (v : Value) : Reordered v v
  | trans {u v w : Value} (hfirst : Reordered u v) (hsecond : Reordered v w) : Reordered u w
  | members {xs ys : List (Key × Value)} (hperm : xs.Perm ys) : Reordered (.dict xs) (.dict ys)
  | item (before after : List Value) {v w : Value} (hitem : Reordered v w) :
      Reordered (.list (before ++ v :: after)) (.list (before ++ w :: after))
  | value (before after : List (Key × Value)) (k : Key) {v w : Value} (hvalue : Reordered v w) :
      Reordered (.dict (before ++ (k, v) :: after)) (.dict (before ++ (k, w) :: after))

/-- What is made of a list comes from what is made of its items, and of a dictionary from what is
made of its members in whatever order. -/
structure Orderless {α : Type} (f : Value → α) : Prop where
  list : ∀ {vs ws : List Value}, vs.map f = ws.map f → f (.list vs) = f (.list ws)
  dict : ∀ {xs ys : List (Key × Value)},
    (xs.map fun member => (member.1, f member.2)).Perm
      (ys.map fun member => (member.1, f member.2)) → f (.dict xs) = f (.dict ys)

namespace Reordered

variable {v w : Value}

theorem eq_of_orderless {α : Type} {f : Value → α} (hf : Orderless f) (h : Reordered v w) :
    f v = f w := by
  induction h with
  | refl v => rfl
  | trans _ _ hfirst hsecond => exact hfirst.trans hsecond
  | members hperm => exact hf.dict (hperm.map _)
  | item before after _ ih =>
    apply hf.list
    rw [List.map_append, List.map_append, List.map_cons, List.map_cons, ih]
  | value before after k _ ih =>
    apply hf.dict
    rw [List.map_append, List.map_append, List.map_cons, List.map_cons, ih]

/-- Items may be exchanged one after the other. -/
lemma items {vs ws : List Value} (h : List.Forall₂ Reordered vs ws) (front : List Value) :
    Reordered (.list (front ++ vs)) (.list (front ++ ws)) := by
  induction h generalizing front with
  | nil => exact refl _
  | @cons v w vs ws hvw hrest ih =>
    have hvs := ih (front ++ [w])
    rw [List.append_assoc, List.append_assoc] at hvs
    exact (item front vs hvw).trans hvs

lemma values {xs ys : List (Key × Value)}
    (h : List.Forall₂ (fun x y => x.1 = y.1 ∧ Reordered x.2 y.2) xs ys)
    (front : List (Key × Value)) : Reordered (.dict (front ++ xs)) (.dict (front ++ ys)) := by
  induction h generalizing front with
  | nil => exact refl _
  | @cons x y xs ys hxy hrest ih =>
    obtain ⟨k, v⟩ := x
    obtain ⟨k', w⟩ := y
    obtain ⟨rfl, hvw⟩ := hxy
    have hxs := ih (front ++ [(k, w)])
    rw [List.append_assoc, List.append_assoc] at hxs
    exact (value front xs k hvw).trans hxs

end Reordered

section Depth

theorem orderless_exceeds : Orderless fun v room => Value.exceeds room v where
  list {vs ws} h := by
    funext room
    have hany := congrArg (List.any · fun f => f (room - 1)) h
    simp only [List.any_map] at hany
    rw [Value.exceeds, Value.exceeds, itemsExceed_eq_any, itemsExceed_eq_any]
    exact congrArg (room == 0 || ·) hany
  dict {xs ys} h := by
    funext room
    have hany := h.any_eq (f := fun member => member.2 (room - 1))
    simp only [List.any_map] at hany
    rw [Value.exceeds, Value.exceeds, membersExceed_eq_any, membersExceed_eq_any]
    exact congrArg (room == 0 || ·) hany

end Depth

section Digits

theorem orderless_holds (key : Key → Bool) (single : Value → Bool) :
    Orderless (holds key single) where
  list {vs ws} h := by
    have hany := congrArg (List.any · id) h
    simp only [List.any_map] at hany
    rw [holds_list, holds_list]
    exact hany
  dict {xs ys} h := by
    have hany := h.any_eq (f := fun member => key member.1 || member.2)
    simp only [List.any_map] at hany
    rw [holds_dict, holds_dict]
    exact hany

/-- What is in the way of showing something that may hold an integer with too many digits. -/
def digitsUnshown? (overlong : Bool) : Option Unshown :=
  if overlong then some .tooManyDigits else none

lemma digitsUnshown?_or (a b : Bool) :
    (digitsUnshown? a).or (digitsUnshown? b) = digitsUnshown? (a || b) := by
  cases a <;> rfl

lemma holdsOverlong_list (items : List Value) :
    holdsOverlong (.list items) = items.any holdsOverlong := holds_list _ _ items

lemma holdsOverlong_dict (members : List (Key × Value)) :
    holdsOverlong (.dict members) =
      members.any fun member => member.1.isOverlong || holdsOverlong member.2 :=
  holds_dict _ _ members

variable {room : Nat}

lemma itemsUnshown?_eq {items : List Value}
    (h : ∀ v ∈ items, v.unshown? room = digitsUnshown? (holdsOverlong v)) :
    Value.itemsUnshown? room items = digitsUnshown? (items.any holdsOverlong) := by
  induction items with
  | nil => rfl
  | cons v vs ih =>
    rw [List.forall_mem_cons] at h
    rw [Value.itemsUnshown?, h.1, ih h.2, digitsUnshown?_or, List.any_cons]

lemma membersUnshown?_eq {members : List (Key × Value)}
    (h : ∀ member ∈ members, member.2.unshown? room = digitsUnshown? (holdsOverlong member.2)) :
    Value.membersUnshown? room members = digitsUnshown?
      (members.any fun member => member.1.isOverlong || holdsOverlong member.2) := by
  induction members with
  | nil => rfl
  | cons member rest ih =>
    rw [List.forall_mem_cons] at h
    rw [Value.membersUnshown?, h.1, ih h.2, digitsUnshown?_or, List.any_cons]
    cases member.1.isOverlong <;> rfl

/-- Nothing but such an integer keeps a value from being shown that is not too deep. -/
theorem unshown?_eq {v : Value} (h : v.exceeds room = false) :
    v.unshown? room = digitsUnshown? (holdsOverlong v) := by
  induction v using value_induction generalizing room with
  | null | bool | int | real | text | bytes => rfl
  | list items ih =>
    obtain ⟨hroom, hshallow⟩ := exceeds_list_eq_false.mp h
    rw [Value.unshown?, if_neg hroom, holdsOverlong_list]
    exact itemsUnshown?_eq fun v hv => ih v hv (hshallow v hv)
  | dict members ih =>
    obtain ⟨hroom, hshallow⟩ := exceeds_dict_eq_false.mp h
    rw [Value.unshown?, if_neg hroom, holdsOverlong_dict]
    exact membersUnshown?_eq fun member hmember => ih member hmember (hshallow member hmember)

end Digits

section Arranged

variable {room : Nat}

lemma isOk_map {ε α β : Type} (x : Except ε α) (f : α → β) : (x.map f).isOk = x.isOk := by
  cases x <;> rfl

lemma arrangeItems_isOk (items : List Value) :
    (arrangeItems room items).isOk = items.all fun v => (arrange room v).isOk := by
  induction items with
  | nil => rfl
  | cons v vs ih =>
    rw [List.all_cons, ← ih, arrangeItems]
    cases arrange room v with
    | error e => rfl
    | ok a => exact isOk_map (arrangeItems room vs) (a :: ·)

lemma settle_isOk (members : List (Key × Except Disorder Value)) :
    (settle members).isOk = members.all fun member => !member.1.isOverlong && member.2.isOk := by
  induction members with
  | nil => rfl
  | cons member rest ih =>
    obtain ⟨k, outcome⟩ := member
    rw [List.all_cons, ← ih, settle]
    cases k.isOverlong with
    | true => rfl
    | false =>
      cases outcome with
      | error e => rfl
      | ok a => exact isOk_map (settle rest) ((k, a) :: ·)

lemma arrangeValues_eq_map (members : List (Key × Value)) :
    arrangeValues room members = members.map fun member => (member.1, arrange room member.2) := by
  induction members with
  | nil => rfl
  | cons member rest ih => rw [arrangeValues, ih, List.map_cons]

/-- The members ordered by key before their values are arranged. -/
def byKey (members : List (Key × Value)) : List (Key × Value) :=
  members.mergeSort fun a b => keyLe a.1 b.1

lemma arrangeMembers_eq (members : List (Key × Value)) :
    arrangeMembers (arrangeValues room members) =
      if comparable (members.map (·.1)) then
        settle ((byKey members).map fun member => (member.1, arrange room member.2))
      else .error .mixedKeys := by
  have hkeys : (arrangeValues room members).map (·.1) = members.map (·.1) := by
    rw [arrangeValues_eq_map, List.map_map]
    rfl
  have hsort : (byKey members).map (fun member => (member.1, arrange room member.2)) =
      (arrangeValues room members).mergeSort fun a b => keyLe a.1 b.1 := by
    rw [arrangeValues_eq_map]
    exact List.map_mergeSort fun _ _ _ _ => rfl
  rw [arrangeMembers, hkeys, hsort]

lemma arrange_list_isOk (items : List Value) :
    (arrange room (.list items)).isOk =
      (decide (room ≠ 0) && items.all fun v => (arrange (room - 1) v).isOk) := by
  rw [arrange]
  split
  · next hroom => simp [hroom, Except.isOk, Except.toBool]
  · next hroom => rw [isOk_map, arrangeItems_isOk, decide_eq_true hroom, Bool.true_and]

lemma arrange_dict_isOk (members : List (Key × Value)) :
    (arrange room (.dict members)).isOk =
      (decide (room ≠ 0) && (comparable (members.map (·.1)) && members.all fun member =>
        !member.1.isOverlong && (arrange (room - 1) member.2).isOk)) := by
  have hsorted : ((byKey members).map fun member => (member.1, arrange (room - 1) member.2)).all
      (fun member => !member.1.isOverlong && member.2.isOk) =
        members.all fun member =>
          !member.1.isOverlong && (arrange (room - 1) member.2).isOk := by
    rw [List.all_map]
    exact (List.mergeSort_perm members _).all_eq
  rw [arrange]
  split
  · next hroom => simp [hroom, Except.isOk, Except.toBool]
  · next hroom =>
    rw [isOk_map, arrangeMembers_eq, decide_eq_true hroom, Bool.true_and]
    split
    · next hkeys => rw [settle_isOk, hsorted, hkeys, Bool.true_and]
    · next hkeys => rw [Bool.not_eq_true] at hkeys; rw [hkeys, Bool.false_and]; rfl

lemma comparable_perm {keys keys' : List Key} (h : keys.Perm keys') :
    comparable keys = comparable keys' := by
  unfold comparable
  rw [h.length_eq, h.all_eq, h.all_eq]

/-- Whether a value can be arranged does not depend on the order of members. -/
theorem orderless_arrange : Orderless fun v room => (arrange room v).isOk where
  list {vs ws} h := by
    funext room
    have hall := congrArg (List.all · fun f => f (room - 1)) h
    simp only [List.all_map] at hall
    rw [arrange_list_isOk, arrange_list_isOk]
    exact congrArg (decide (room ≠ 0) && ·) hall
  dict {xs ys} h := by
    funext room
    have hall := h.all_eq (f := fun member => !member.1.isOverlong && member.2 (room - 1))
    have hkeys := comparable_perm (h.map (·.1))
    simp only [List.all_map, List.map_map] at hall hkeys
    rw [arrange_dict_isOk, arrange_dict_isOk]
    exact congrArg (decide (room ≠ 0) && ·) (congrArg₂ (· && ·) hkeys hall)

/-- What may come of arranging something that is not too deep. -/
inductive WithinDepth {α : Type} (P : α → Prop) : Except Disorder α → Prop where
  | ok {a : α} (h : P a) : WithinDepth P (.ok a)
  | error {disorder : Disorder} (hshallow : disorder ≠ .tooDeep) : WithinDepth P (.error disorder)

lemma WithinDepth.bind {α β : Type} {P : α → Prop} {Q : β → Prop} {x : Except Disorder α}
    {f : α → Except Disorder β} (h : WithinDepth P x) (hf : ∀ a, P a → WithinDepth Q (f a)) :
    WithinDepth Q (x >>= f) := by
  cases h with
  | ok ha => exact hf _ ha
  | error hshallow => exact .error hshallow

lemma WithinDepth.map {α β : Type} {P : α → Prop} {Q : β → Prop} {x : Except Disorder α} {f : α → β}
    (h : WithinDepth P x) (hf : ∀ a, P a → Q (f a)) : WithinDepth Q (x.map f) := by
  cases h with
  | ok ha => exact .ok (hf _ ha)
  | error hshallow => exact .error hshallow

/-- The value in one more order, without an integer that has too many digits. -/
def Arranges (v a : Value) : Prop := Reordered v a ∧ holdsOverlong v = false

lemma arrangeItems_withinDepth {items : List Value}
    (h : ∀ v ∈ items, WithinDepth (Arranges v) (arrange room v)) :
    WithinDepth (fun as => List.Forall₂ Reordered items as ∧ items.any holdsOverlong = false)
      (arrangeItems room items) := by
  induction items with
  | nil => exact .ok ⟨.nil, rfl⟩
  | cons v vs ih =>
    rw [List.forall_mem_cons] at h
    rw [arrangeItems]
    refine h.1.bind fun a ⟨horder, hshort⟩ => (ih h.2).bind fun as ⟨horders, hshorts⟩ => .ok ?_
    exact ⟨.cons horder horders, by rw [List.any_cons, hshort, hshorts]; rfl⟩

lemma settle_withinDepth {members : List (Key × Value)}
    (h : ∀ member ∈ members, WithinDepth (Arranges member.2) (arrange room member.2)) :
    WithinDepth (fun as => List.Forall₂ (fun x y => x.1 = y.1 ∧ Reordered x.2 y.2) members as ∧
        members.any (fun member => member.1.isOverlong || holdsOverlong member.2) = false)
      (settle (members.map fun member => (member.1, arrange room member.2))) := by
  induction members with
  | nil => exact .ok ⟨.nil, rfl⟩
  | cons member rest ih =>
    rw [List.forall_mem_cons] at h
    rw [List.map_cons, settle]
    split
    case isTrue => exact .error nofun
    case isFalse hkey =>
      rw [Bool.not_eq_true] at hkey
      refine h.1.bind fun a ⟨horder, hshort⟩ => (ih h.2).bind fun as ⟨horders, hshorts⟩ => .ok ?_
      exact ⟨.cons ⟨rfl, horder⟩ horders, by rw [List.any_cons, hkey, hshort, hshorts]; rfl⟩

/-- A value that is not too deep is arranged by putting its members in another order, unless its
keys are mixed or one of its integers has too many digits. -/
theorem arrange_withinDepth {v : Value} (h : v.exceeds room = false) :
    WithinDepth (Arranges v) (arrange room v) := by
  induction v using value_induction generalizing room with
  | null | bool | real | text | bytes => exact .ok ⟨.refl _, rfl⟩
  | int n =>
    rw [arrange]
    split
    case isTrue => exact .error nofun
    case isFalse hshort => exact .ok ⟨.refl _, Bool.eq_false_iff.mpr hshort⟩
  | list items ih =>
    obtain ⟨hroom, hshallow⟩ := exceeds_list_eq_false.mp h
    rw [arrange, if_neg hroom]
    refine (arrangeItems_withinDepth fun v hv => ih v hv (hshallow v hv)).map
      fun as ⟨horders, hshorts⟩ => ⟨Reordered.items horders [], ?_⟩
    rw [holdsOverlong_list, hshorts]
  | dict members ih =>
    obtain ⟨hroom, hshallow⟩ := exceeds_dict_eq_false.mp h
    have hperm : (byKey members).Perm members := List.mergeSort_perm members _
    have hvalues := settle_withinDepth fun member (hmember : member ∈ byKey members) =>
      ih member (hperm.mem_iff.mp hmember) (hshallow member (hperm.mem_iff.mp hmember))
    rw [arrange, if_neg hroom, arrangeMembers_eq]
    split
    case isTrue =>
      refine hvalues.map fun as ⟨horders, hshorts⟩ =>
        ⟨(Reordered.members hperm.symm).trans (Reordered.values horders []), ?_⟩
      rw [holdsOverlong_dict, ← hperm.any_eq, hshorts]
    case isFalse => exact .error nofun

end Arranged

section Lengths

/-- The lengths of the texts of lists and dictionaries: two brackets, and two characters between
items, between members, and between a key and its value. -/
structure Widths (key : Key → Nat) (f : Value → Nat) : Prop where
  list : ∀ items, f (.list items) = max 2 (items.map fun v => f v + 2).sum
  dict : ∀ members,
    f (.dict members) = max 2 (members.map fun member => key member.1 + f member.2 + 4).sum

lemma Widths.orderless {key : Key → Nat} {f : Value → Nat} (h : Widths key f) : Orderless f where
  list {vs ws} heq := by
    have hsum := congrArg (fun widths => (widths.map (· + 2)).sum) heq
    simp only [List.map_map] at hsum
    rw [h.list, h.list]
    exact congrArg (max 2) hsum
  dict {xs ys} hperm := by
    have hsum := (hperm.map fun member => key member.1 + member.2 + 4).sum_nat
    simp only [List.map_map] at hsum
    rw [h.dict, h.dict]
    exact congrArg (max 2) hsum

lemma length_join (texts : List Text) :
    (Text.join ", " texts).length + 2 = max 2 (texts.map fun t => t.length + 2).sum := by
  unfold Text.join
  induction texts with
  | nil => rfl
  | cons t rest ih =>
    cases rest with
    | nil => simp
    | cons s rest =>
      rw [List.intercalate_cons_cons, List.length_append, List.length_append, Nat.add_assoc, ih]
      simp only [List.map_cons, List.sum_cons]
      have hcomma : (", " : Text).length = 2 := rfl
      omega

lemma literals_eq_map (items : List Value) : Value.literals items = items.map Value.literal := by
  induction items with
  | nil => rfl
  | cons v vs ih => rw [Value.literals, ih, List.map_cons]

lemma memberLiterals_lengths (members : List (Key × Value)) :
    (Value.memberLiterals members).map (fun t => t.length + 2) =
      members.map fun member => member.1.literal.length + member.2.literal.length + 4 := by
  induction members with
  | nil => rfl
  | cons member rest ih =>
    have hcolon : (": " : Text).length = 2 := rfl
    rw [Value.memberLiterals, List.map_cons, ih, List.map_cons, List.length_append,
      List.length_append, hcolon]
    congr 1
    omega

/-- The length of a value shown as it stands. -/
theorem widths_literal : Widths (fun k => k.literal.length) fun v => v.literal.length where
  list items := by
    have hbracket : ("[" : Text).length + ("]" : Text).length = 2 := rfl
    have hjoin := length_join (Value.literals items)
    rw [literals_eq_map, List.map_map] at hjoin
    rw [Value.literal, List.length_append, List.length_append, literals_eq_map]
    change _ = max 2 (items.map ((fun t => t.length + 2) ∘ Value.literal)).sum
    omega
  dict members := by
    have hbrace : ("\x7b" : Text).length + ("\x7d" : Text).length = 2 := rfl
    have hjoin := length_join (Value.memberLiterals members)
    rw [memberLiterals_lengths] at hjoin
    rw [Value.literal, List.length_append, List.length_append]
    omega

/-- The length of the one-line text of a value. -/
def lineWidth (v : Value) : Nat := (render .inline v).length

/-- The text of a value has the same length wherever it stands in a line. -/
def FixedWidth (v : Value) : Prop :=
  ∀ depth after, (renderOnto .inline depth after v).length = lineWidth v + after.length

variable {depth : Nat}

lemma renderItems_length {items : List Value} (h : ∀ v ∈ items, FixedWidth v) (after : Text) :
    (renderItems .inline depth after items).length =
      (items.map fun v => lineWidth v + 2).sum + after.length := by
  induction items with
  | nil => exact (Nat.zero_add _).symm
  | cons v vs ih =>
    have hcomma : (comma .inline depth).length = 2 := rfl
    rw [renderItems, List.length_append, h v List.mem_cons_self,
      ih fun w hw => h w (List.mem_cons_of_mem v hw), List.map_cons, List.sum_cons, hcomma]
    omega

lemma length_renderText_append (t after : Text) :
    (renderText .inline t after).length = (renderText .inline t []).length + after.length := by
  rw [renderText_append, List.length_append]

lemma renderMembers_length {members : List (Key × Value)}
    (h : ∀ member ∈ members, FixedWidth member.2) (after : Text) :
    (renderMembers .inline depth after members).length =
      (members.map fun member => (renderText .inline (keyText member.1) []).length +
        lineWidth member.2 + 4).sum + after.length := by
  induction members with
  | nil => exact (Nat.zero_add _).symm
  | cons member rest ih =>
    have hcomma : (comma .inline depth).length = 2 := rfl
    have hcolon : (": " : Text).length = 2 := rfl
    rw [renderMembers, List.length_append, length_renderText_append, List.length_append,
      h member List.mem_cons_self, ih fun other hother => h other (List.mem_cons_of_mem _ hother),
      List.map_cons, List.sum_cons, hcomma, hcolon]
    omega

lemma renderList_length {items : List Value} (h : ∀ v ∈ items, FixedWidth v) (after : Text) :
    (renderOnto .inline depth after (.list items)).length =
      max 2 (items.map fun v => lineWidth v + 2).sum + after.length := by
  cases items with
  | nil => exact Nat.add_comm after.length 2
  | cons v vs =>
    have hgap (depth : Nat) : gap .inline depth = [] := rfl
    rw [renderOnto, hgap, hgap, List.nil_append, List.nil_append, List.length_cons,
      h v List.mem_cons_self, renderItems_length fun w hw => h w (List.mem_cons_of_mem v hw),
      List.length_cons, List.map_cons, List.sum_cons]
    omega

lemma renderDict_length {members : List (Key × Value)}
    (h : ∀ member ∈ members, FixedWidth member.2) (after : Text) :
    (renderOnto .inline depth after (.dict members)).length =
      max 2 (members.map fun member => (renderText .inline (keyText member.1) []).length +
        lineWidth member.2 + 4).sum + after.length := by
  cases members with
  | nil => exact Nat.add_comm after.length 2
  | cons member rest =>
    have hgap (depth : Nat) : gap .inline depth = [] := rfl
    have hcolon : (": " : Text).length = 2 := rfl
    rw [renderOnto, hgap, hgap, List.nil_append, List.nil_append, List.length_cons,
      length_renderText_append, List.length_append, h member List.mem_cons_self,
      renderMembers_length fun other hother => h other (List.mem_cons_of_mem _ hother),
      List.length_cons, List.map_cons, List.sum_cons, hcolon]
    omega

lemma fixedWidth (v : Value) : FixedWidth v := by
  induction v using value_induction with
  | null | bool | int | real =>
    intro depth after
    simp only [lineWidth, render, renderOnto, List.length_append, List.length_nil, Nat.add_zero]
  | text | bytes => exact fun _ => length_renderText_append _
  | list items ih =>
    intro depth after
    rw [renderList_length ih, lineWidth, render, renderList_length ih]
    rfl
  | dict members ih =>
    intro depth after
    rw [renderDict_length ih, lineWidth, render, renderDict_length ih]
    rfl

theorem widths_lineWidth :
    Widths (fun k => (renderText .inline (keyText k) []).length) lineWidth where
  list _ := renderList_length (fun v _ => fixedWidth v) []
  dict _ := renderDict_length (fun member _ => fixedWidth member.2) []

end Lengths

section Estimates

variable {v w : Value}

lemma plain_eq_literal {room : Nat} {disorder : Disorder} (h : arrange room v = .error disorder) :
    v.plain = v.literal := by
  cases v with
  | text t => exact nomatch h
  | _ => rfl

/-- What is measured of a value that is not too deep: the line of the arranged value, or its literal
if it has no arrangement, and nothing if one of its integers has too many digits. -/
theorem canonicalText_eq (h : v.exceeds depthLimit = false) :
    (canonicalText v).map List.length =
      if holdsOverlong v then .error .tooManyDigits
      else if (arrange depthLimit v).isOk then .ok (lineWidth v) else .ok v.literal.length := by
  have hwithin := arrange_withinDepth h
  unfold canonicalText
  cases harranged : arrange depthLimit v with
  | ok a =>
    rw [harranged] at hwithin
    obtain ⟨horder, hshort⟩ : Arranges v a := by cases hwithin; assumption
    have hwidth : lineWidth v = lineWidth a := horder.eq_of_orderless widths_lineWidth.orderless
    rw [hshort, hwidth]
    rfl
  | error disorder =>
    have hplain := plain_eq_literal harranged
    have hunshown := unshown?_eq h
    rw [harranged] at hwithin
    cases disorder with
    | tooDeep => cases hwithin; contradiction
    | mixedKeys | tooManyDigits =>
      dsimp only
      unfold plainText
      rw [hunshown, hplain]
      cases holdsOverlong v <;> rfl

namespace Reordered

theorem exceeds_eq (h : Reordered v w) (room : Nat) : v.exceeds room = w.exceeds room :=
  congrFun (h.eq_of_orderless orderless_exceeds) room

theorem holdsOverlong_eq (h : Reordered v w) : holdsOverlong v = holdsOverlong w :=
  h.eq_of_orderless (orderless_holds _ _)

/-- The text that is measured has the same length in every order of members. -/
theorem canonicalText_length (h : Reordered v w) (hdepth : v.exceeds depthLimit = false) :
    (canonicalText v).map List.length = (canonicalText w).map List.length := by
  have hline : lineWidth v = lineWidth w := h.eq_of_orderless widths_lineWidth.orderless
  have hliteral : v.literal.length = w.literal.length :=
    h.eq_of_orderless widths_literal.orderless
  have hok := congrFun (h.eq_of_orderless orderless_arrange) depthLimit
  rw [canonicalText_eq hdepth, canonicalText_eq (h.exceeds_eq depthLimit ▸ hdepth),
    h.holdsOverlong_eq, hline, hliteral, hok]

lemma map_textTokens (t : Except Unshown Text) :
    t.map textTokens = (t.map List.length).map (· / charsPerToken) := by
  cases t <;> rfl

/-- Only lists and dictionaries have members to reorder. -/
lemma eq_or_canonical (h : Reordered v w) :
    v = w ∨ v.tokens = (canonicalText v).map textTokens ∧
      w.tokens = (canonicalText w).map textTokens := by
  induction h with
  | refl v => exact .inl rfl
  | trans _ _ hfirst hsecond =>
    rcases hfirst with rfl | hfirst
    · exact hsecond
    · rcases hsecond with rfl | hsecond
      · exact .inr hfirst
      · exact .inr ⟨hfirst.1, hsecond.2⟩
  | members | item | value => exact .inr ⟨rfl, rfl⟩

theorem tokens_eq (h : Reordered v w) (hdepth : v.exceeds depthLimit = false) :
    v.tokens = w.tokens := by
  rcases h.eq_or_canonical with rfl | ⟨hv, hw⟩
  · rfl
  · rw [hv, hw, map_textTokens, map_textTokens, h.canonicalText_length hdepth]

end Reordered

/-- A value that is not too deep has a size, unless one of its integers has too many digits. -/
theorem tokens_outcome (h : v.exceeds depthLimit = false) :
    if holdsOverlong v then v.tokens = .error .tooManyDigits else ∃ size, v.tokens = .ok size := by
  have hlength := canonicalText_eq h
  have hcanonical : (if holdsOverlong v then
      (canonicalText v).map textTokens = .error .tooManyDigits
      else ∃ size, (canonicalText v).map textTokens = .ok size) := by
    rw [Reordered.map_textTokens, hlength]
    split
    case isTrue => rfl
    case isFalse => split <;> exact ⟨_, rfl⟩
  cases v with
  | text t => exact ⟨_, rfl⟩
  | _ => exact hcanonical

/-- Calls and results that differ in nothing but the order of members of what the tool was given or
gave back. -/
inductive Rearranged : Part → Part → Prop where
  | call (tool : Text) {v w : Value} (hargs : Reordered v w)
      (hdepth : v.exceeds depthLimit = false) : Rearranged (.call tool v) (.call tool w)
  | result (tool : Text) {v w : Value} (hvalue : Reordered v w)
      (hdepth : v.exceeds depthLimit = false) : Rearranged (.result tool v) (.result tool w)

variable {part part' : Part}

/-- An integer in what a tool was given or gave back has too many digits. -/
def partHoldsOverlong : Part → Bool
  | .call _ v | .result _ v => holdsOverlong v
  | _ => false

lemma Rearranged.tokens_eq (h : Rearranged part part') : part.tokens = part'.tokens := by
  cases h with
  | call tool hargs hdepth =>
    exact congrArg (Except.map (textTokens tool + ·)) (hargs.tokens_eq hdepth)
  | result tool hvalue hdepth =>
    exact congrArg (Except.map (textTokens tool + ·)) (hvalue.tokens_eq hdepth)

lemma Rearranged.tokens_outcome (h : Rearranged part part') :
    if partHoldsOverlong part then part.tokens = .error .tooManyDigits
    else ∃ size, part.tokens = .ok size := by
  have hpart (tool : Text) {v : Value} (hdepth : v.exceeds depthLimit = false) :
      if holdsOverlong v then v.tokens.map (textTokens tool + ·) = .error .tooManyDigits
      else ∃ size, v.tokens.map (textTokens tool + ·) = .ok size := by
    have hvalue := Proofs.tokens_outcome hdepth
    split at hvalue
    case isTrue hoverlong =>
      rw [if_pos hoverlong, hvalue]
      rfl
    case isFalse hshort =>
      obtain ⟨size, hsize⟩ := hvalue
      rw [if_neg hshort, hsize]
      exact ⟨_, rfl⟩
  cases h with
  | call tool hargs hdepth => exact hpart tool hdepth
  | result tool hvalue hdepth => exact hpart tool hdepth

/-- A sum is made of nothing but the sizes of its items. -/
lemma sumTokens_exchange {α : Type} {size : α → Except Unshown Nat} {x y : α}
    (h : size x = size y) (front back : List α) :
    sumTokens size (front ++ x :: back) = sumTokens size (front ++ y :: back) := by
  induction front with
  | nil => rw [List.nil_append, List.nil_append, sumTokens, sumTokens, h]
  | cons z zs ih => rw [List.cons_append, List.cons_append, sumTokens, sumTokens, ih]

/-- A conversation with a part somewhere in it. -/
def around (before after : List Turn) (role : Text) (front back : List Part) (part : Part) :
    List Turn :=
  before ++ ⟨role, front ++ part :: back⟩ :: after

/-- The order of members counts in no estimate: what comes of measuring a call or a result is the
same in every order, and so is what comes of measuring a conversation around it. A call or a result
has a size exactly if no integer in it has too many digits. -/
theorem estimate_rearranged (h : Rearranged part part') :
    part.tokens = part'.tokens ∧
      (if partHoldsOverlong part then part.tokens = .error .tooManyDigits
        else ∃ size, part.tokens = .ok size) ∧
      ∀ (system : Text) (before after : List Turn) (role : Text) (front back : List Part),
        conversationTokens (around before after role front back part) system =
          conversationTokens (around before after role front back part') system := by
  refine ⟨h.tokens_eq, h.tokens_outcome, fun system before after role front back => ?_⟩
  have hturn : Turn.tokens ⟨role, front ++ part :: back⟩ =
      Turn.tokens ⟨role, front ++ part' :: back⟩ := sumTokens_exchange h.tokens_eq front back
  unfold conversationTokens around
  rw [sumTokens_exchange hturn before after]

/-- Arguments with keys of two kinds, a level down. -/
def mixedArgs (members : List (Key × Value)) : Value := .dict [(.text "at", .dict members)]

/-- Arguments without an arrangement are measured as they stand, with the same result in another
order; with an integer that has too many digits for a key they cannot be measured. -/
theorem estimate_mixedArgs :
    canonicalText (mixedArgs [(.int 7, .null), (.text "x", .bool true)]) =
        .ok "\x7b'at': \x7b7: None, 'x': True\x7d\x7d" ∧
      conversationTokens [⟨"model", [.call "find"
          (mixedArgs [(.int 7, .null), (.text "x", .bool true)])]⟩] [] =
        conversationTokens [⟨"model", [.call "find"
          (mixedArgs [(.text "x", .bool true), (.int 7, .null)])]⟩] [] ∧
      (Part.call "find" (mixedArgs [(.int overlong, .null)])).tokens =
        .error .tooManyDigits := by
  have hargs : Reordered (mixedArgs [(.int 7, .null), (.text "x", .bool true)])
      (mixedArgs [(.text "x", .bool true), (.int 7, .null)]) :=
    .value [] [] (.text "at") (.members (List.Perm.swap _ _ _))
  have hdepth : (mixedArgs [(.int 7, .null), (.text "x", .bool true)]).exceeds depthLimit =
      false := by decide +kernel
  have hsame := (estimate_rearranged (.call "find" hargs hdepth)).2.2
  have hshallow : (mixedArgs [(.int overlong, .null)]).exceeds depthLimit = false := by
    simp [mixedArgs, Value.exceeds, Value.membersExceed, depthLimit]
  have houtcome := (estimate_rearranged (.call "find" (.refl _) hshallow)).2.1
  rw [if_pos] at houtcome
  · exact ⟨by decide +kernel, hsame [] [] [] "model" [] [], houtcome⟩
  · change ((false || ((isOverlong overlong || false) || false)) || false) = true
    rw [isOverlong_overlong]
    rfl

end Estimates

end Condense.Proofs
