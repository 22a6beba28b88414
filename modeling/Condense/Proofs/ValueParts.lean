import Condense.Proofs.RealTexts

/-!
# What stands in a value

Values are searched for keys, and for single values, of some kind. Two kinds matter for texts: integers
with too many digits, which no text shows, and texts with the halves of a surrogate pair side by side,
which come back out of a document as the character that the pair stands for.
-/

namespace Condense.Proofs
open Json

/-- Induction on a value, its items and the values of its members. -/
@[elab_as_elim]
theorem value_induction {motive : Value → Prop} (null : motive .null)
    (bool : ∀ b, motive (.bool b)) (int : ∀ n, motive (.int n)) (real : ∀ x, motive (.real x))
    (text : ∀ t, motive (.text t)) (bytes : ∀ octets, motive (.bytes octets))
    (list : ∀ items, (∀ v ∈ items, motive v) → motive (.list items))
    (dict : ∀ members, (∀ member ∈ members, motive member.2) → motive (.dict members)) (v : Value) :
    motive v := by
  refine @Value.rec motive (fun items => ∀ v ∈ items, motive v)
    (fun members => ∀ member ∈ members, motive member.2) (fun member => motive member.2)
    null bool int real text bytes list dict ?_ ?_ ?_ ?_ ?_ v
  · exact List.forall_mem_nil _
  · exact fun head tail hhead htail => List.forall_mem_cons.mpr ⟨hhead, htail⟩
  · exact List.forall_mem_nil _
  · exact fun head tail hhead htail => List.forall_mem_cons.mpr ⟨hhead, htail⟩
  · exact fun k v hv => hv

section Search

variable (key : Key → Bool) (single : Value → Bool)

mutual

/-- Some key in a value, or some value in it that is neither a list nor a dictionary, is of a kind. -/
def holds : Value → Bool
  | .list items => itemsHold items
  | .dict members => membersHold members
  | v => single v

def itemsHold : List Value → Bool
  | [] => false
  | v :: vs => holds v || itemsHold vs

def membersHold : List (Key × Value) → Bool
  | [] => false
  | (k, v) :: rest => (key k || holds v) || membersHold rest

end

lemma holds_list (items : List Value) :
    holds key single (.list items) = items.any (holds key single) := by
  rw [holds]
  induction items with
  | nil => rfl
  | cons v vs ih => rw [itemsHold, ih, List.any_cons]

lemma holds_dict (members : List (Key × Value)) :
    holds key single (.dict members) =
      members.any fun member => key member.1 || holds key single member.2 := by
  rw [holds]
  induction members with
  | nil => rfl
  | cons member rest ih => rw [membersHold, ih, List.any_cons]

variable {key single}

lemma holds_dict_eq_false {members : List (Key × Value)} :
    holds key single (.dict members) = false ↔
      ∀ member ∈ members, key member.1 = false ∧ holds key single member.2 = false := by
  rw [holds_dict, List.any_eq_false]
  refine forall₂_congr fun member _ => ?_
  rw [Bool.not_eq_true, Bool.or_eq_false_iff]

end Search

/-- The value is an integer with too many digits. -/
def isOverlongInteger : Value → Bool
  | .int n => isOverlong n
  | _ => false

/-- An integer somewhere in the value, be it the key of a member, has too many digits. -/
def holdsOverlong : Value → Bool := holds Key.isOverlong isOverlongInteger

lemma lt_length_toDigits (k : Nat) : k < (Nat.toDigits 10 (10 ^ k)).length := by
  cases k with
  | zero => exact Nat.zero_lt_one
  | succ k =>
    rw [← Nat.not_le, Nat.length_toDigits_le_iff (by decide) k.succ_pos]
    exact lt_irrefl _

/-- The least integer with too many digits. -/
@[irreducible]
def overlong : Int := (10 ^ digitLimit : Nat)

lemma overlong_pos : 0 < overlong := by
  unfold overlong
  exact_mod_cast Nat.pow_pos (by decide)

lemma isOverlong_overlong : isOverlong overlong = true := by
  unfold overlong
  exact decide_eq_true (lt_length_toDigits digitLimit)

def isSplitKey : Key → Bool
  | .text t => !isSpellable t
  | _ => false

def isSplitText : Value → Bool
  | .text t => !isSpellable t
  | _ => false

/-- In a text somewhere in the value, be it the key of a member, the first half of a surrogate pair
stands in front of a second one. -/
def holdsSplitPair : Value → Bool := holds isSplitKey isSplitText

end Condense.Proofs
