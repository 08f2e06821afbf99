/-
This file says when two resolved values are equal.

They should be when they agree (`Resolved.Agrees`): both are undefined, or they have one structure
and the numbers in it stand for the same exact values, place by place. Two things come between.
Numbers by themselves are compared as doubles, so that long integers are merged with others
(`Resolved.Merges`). Numbers inside of arrays and objects are compared by their kind, too, so that
an integer is never equal to the double for it there (`Resolved.Mixes`). The main statement is that
nothing else does.
-/

import ChatFlow.Proofs.Integers
import Mathlib.Data.List.Forall2
import Mathlib.Data.List.Sort

namespace ChatFlow

/-! ### Values of one structure -/

namespace Json

/-- Values of one structure: the same kinds, lengths and keys, the same texts and truth values, and
numbers in the same places that are related to each other. -/
inductive Corresponds (related : Number → Number → Prop) : Json → Json → Prop where
  | null : Corresponds related null null
  | bool (value : Bool) : Corresponds related (bool value) (bool value)
  | number {left right : Number} (same : related left right) :
    Corresponds related (number left) (number right)
  | string (text : String) : Corresponds related (string text) (string text)
  | array {lefts rights : List Json} (length : lefts.length = rights.length)
      (items : ∀ (index : Nat) (left right : Json), lefts[index]? = some left →
        rights[index]? = some right → Corresponds related left right) :
    Corresponds related (array lefts) (array rights)
  | object {lefts rights : Dictionary Json} (keys : ∀ key, lefts.has key = rights.has key)
      (values : ∀ key left right, lefts.get? key = some left → rights.get? key = some right →
        Corresponds related left right) :
    Corresponds related (object lefts) (object rights)

/-- The numbers stand in the same place of two values. -/
inductive Opposite : Json → Json → Number → Number → Prop where
  | here (left right : Number) : Opposite (number left) (number right) left right
  | item {lefts rights : List Json} {index : Nat} {left right : Json} {first second : Number}
      (inLeft : lefts[index]? = some left) (inRight : rights[index]? = some right)
      (inside : Opposite left right first second) :
    Opposite (array lefts) (array rights) first second
  | field {lefts rights : Dictionary Json} {key : String} {left right : Json}
      {first second : Number} (inLeft : lefts.get? key = some left)
      (inRight : rights.get? key = some right) (inside : Opposite left right first second) :
    Opposite (object lefts) (object rights) first second

variable {related further : Number → Number → Prop} {left right : Json}

theorem Corresponds.mono (weaker : ∀ first second, related first second → further first second)
    (corresponds : Corresponds related left right) : Corresponds further left right := by
  induction corresponds with
  | null => exact .null
  | bool value => exact .bool value
  | number same => exact .number (weaker _ _ same)
  | string text => exact .string text
  | array length _ inductionHypothesis => exact .array length inductionHypothesis
  | object keys _ inductionHypothesis => exact .object keys inductionHypothesis

theorem Corresponds.of_opposite (corresponds : Corresponds related left right)
    {first second : Number} (opposite : Opposite left right first second) :
    related first second := by
  induction opposite with
  | here =>
    cases corresponds with
    | number same => exact same
  | item inLeft inRight _ inductionHypothesis =>
    cases corresponds with
    | array _ items => exact inductionHypothesis (items _ _ _ inLeft inRight)
  | field inLeft inRight _ inductionHypothesis =>
    cases corresponds with
    | object _ values => exact inductionHypothesis (values _ _ _ inLeft inRight)

/-- What is asked of numbers in the same place beside the relation may be asked of all such places
at once. -/
theorem corresponds_and_iff :
    Corresponds (fun first second => related first second ∧ further first second) left right ↔
      Corresponds related left right ∧
        ∀ first second, Opposite left right first second → further first second := by
  constructor
  · intro both
    exact ⟨both.mono fun _ _ => And.left, fun _ _ opposite => (both.of_opposite opposite).2⟩
  · rintro ⟨corresponds, rest⟩
    induction corresponds with
    | null => exact .null
    | bool value => exact .bool value
    | number same => exact .number ⟨same, rest _ _ (.here _ _)⟩
    | string text => exact .string text
    | array length _ inductionHypothesis =>
      exact .array length fun index left right inLeft inRight =>
        inductionHypothesis index left right inLeft inRight fun _ _ opposite =>
          rest _ _ (.item inLeft inRight opposite)
    | object keys _ inductionHypothesis =>
      exact .object keys fun key left right inLeft inRight =>
        inductionHypothesis key left right inLeft inRight fun _ _ opposite =>
          rest _ _ (.field inLeft inRight opposite)

end Json

/-! ### Lists and fields side by side -/

theorem forall₂_iff_getElem? {α : Type} {related : α → α → Prop} {lefts rights : List α} :
    List.Forall₂ related lefts rights ↔
      lefts.length = rights.length ∧
        ∀ (index : Nat) (left right : α), lefts[index]? = some left → rights[index]? = some right →
          related left right := by
  rw [List.forall₂_iff_get]
  refine and_congr_right fun _ => ⟨fun each index left right inLeft inRight => ?_,
    fun each index inLeft inRight => ?_⟩
  · obtain ⟨leftBound, rfl⟩ := List.getElem?_eq_some_iff.mp inLeft
    obtain ⟨rightBound, rfl⟩ := List.getElem?_eq_some_iff.mp inRight
    exact each index leftBound rightBound
  · exact each index _ _ (List.getElem?_eq_getElem inLeft) (List.getElem?_eq_getElem inRight)

namespace Dictionary

variable {α : Type} {lefts rights : Dictionary α} {related : α → α → Prop}

theorem has_iff_mem_keys {entries : Dictionary α} {key : String} :
    entries.has key = true ↔ key ∈ entries.keys := by
  rw [has, Option.isSome_iff_exists, mem_keys_iff]

theorem keys_sorted {entries : Dictionary α} (ascending : entries.Ascending) :
    entries.keys.Pairwise (· < ·) :=
  List.pairwise_map.mpr ascending

/-- Fields one beside the other, with the same key each and related values. -/
def SideBySide (related : α → α → Prop) (lefts rights : Dictionary α) : Prop :=
  List.Forall₂ (fun left right => left.1 = right.1 ∧ related left.2 right.2) lefts rights

theorem sideBySide_cons_iff {left right : String × α} :
    SideBySide related (left :: lefts) (right :: rights) ↔
      (left.1 = right.1 ∧ related left.2 right.2) ∧ SideBySide related lefts rights :=
  List.forall₂_cons

theorem SideBySide.has_eq (beside : SideBySide related lefts rights) (key : String) :
    lefts.has key = rights.has key := by
  induction beside with
  | nil => rfl
  | cons first _ inductionHypothesis =>
    rw [has, has, get?, get?, first.1]
    split
    · rfl
    · exact inductionHypothesis

theorem SideBySide.related_of_get? (beside : SideBySide related lefts rights) {key : String}
    {left right : α} (inLeft : lefts.get? key = some left)
    (inRight : rights.get? key = some right) : related left right := by
  induction beside with
  | nil => cases inLeft
  | cons first _ inductionHypothesis =>
    rw [get?] at inLeft inRight
    rw [first.1] at inLeft
    split at inLeft
    · rename_i here
      rw [if_pos here] at inRight
      cases inLeft
      cases inRight
      exact first.2
    · rename_i other
      rw [if_neg other] at inRight
      exact inductionHypothesis inLeft inRight

theorem sideBySide_of_keys_eq (apart : lefts.keys.Nodup) (order : lefts.keys = rights.keys)
    (values : ∀ key left right, lefts.get? key = some left → rights.get? key = some right →
      related left right) : SideBySide related lefts rights := by
  induction lefts generalizing rights with
  | nil =>
    rw [List.map_eq_nil_iff.mp order.symm]
    exact .nil
  | cons first rest inductionHypothesis =>
    cases rights with
    | nil => cases order
    | cons second others =>
      obtain ⟨same, further⟩ := List.cons.inj order
      rw [keys, List.map_cons, List.nodup_cons] at apart
      refine .cons ⟨same, values first.1 _ _ (if_pos rfl) (if_pos same.symm)⟩
        (inductionHypothesis apart.2 further fun key left right inLeft inRight => ?_)
      -- The key of a later field is not that of the first.
      have other : first.1 ≠ key := by
        rintro rfl
        exact apart.1 (mem_keys_iff.mpr ⟨left, inLeft⟩)
      refine values key left right ?_ ?_
      · rw [get?, if_neg other, inLeft]
      · rw [get?, if_neg fun equal => other (same.trans equal), inRight]

/-- Dictionaries stand side by side when they have the same keys with related values. -/
theorem sideBySide_iff (leftAscending : lefts.Ascending) (rightAscending : rights.Ascending) :
    SideBySide related lefts rights ↔
      (∀ key, lefts.has key = rights.has key) ∧
        ∀ key left right, lefts.get? key = some left → rights.get? key = some right →
          related left right := by
  constructor
  · exact fun beside => ⟨beside.has_eq, fun _ _ _ => beside.related_of_get?⟩
  · rintro ⟨same, values⟩
    have leftSorted := keys_sorted leftAscending
    have order : lefts.keys = rights.keys :=
      leftSorted.eq_of_mem_iff (keys_sorted rightAscending) fun key => by
        rw [← has_iff_mem_keys, ← has_iff_mem_keys, same]
    exact sideBySide_of_keys_eq leftSorted.nodup order values

end Dictionary

/-! ### Equality inside of a value -/

namespace Number

/-- The exact value of a number times `2 ^ 1074`. -/
def scaled : Number → Int
  | integer value => value * Double.one
  | double value => value.scaled

/-- The number is kept as an integer. -/
def isInteger : Number → Bool
  | integer _ => true
  | double _ => false

end Number

theorem Double.equals_iff {left right : Double} (leftFinite : left.isFinite = true)
    (rightFinite : right.isFinite = true) :
    left.equals right = true ↔ left.scaled = right.scaled := by
  cases left with
  | nan | infinite => cases leftFinite
  | finite =>
    cases right with
    | nan | infinite => cases rightFinite
    | finite => exact decide_eq_true_iff

namespace Number

variable {left right : Number}

theorem scaled_integer_inj {first second : Int} :
    (integer first).scaled = (integer second).scaled ↔ first = second :=
  Int.mul_eq_mul_right_iff (Int.natCast_ne_zero.mpr (Nat.ne_of_gt Double.one_pos))

/-- Inside of a value, numbers are equal when they stand for the same value and are of one kind. -/
theorem same_iff (leftFormed : left.WellFormed) (rightFormed : right.WellFormed) :
    left.same right = true ↔
      left.scaled = right.scaled ∧ left.isInteger = right.isInteger := by
  cases left with
  | integer first =>
    cases right with
    | integer second =>
      rw [same, decide_eq_true_iff, scaled_integer_inj]
      exact (and_iff_left rfl).symm
    | double second => exact iff_of_false Bool.false_ne_true fun both => nomatch both.2
  | double first =>
    cases right with
    | integer second => exact iff_of_false Bool.false_ne_true fun both => nomatch both.2
    | double second =>
      rw [same, Double.equals_iff leftFormed.1 rightFormed.1]
      exact (and_iff_left rfl).symm

end Number

namespace Json

/-- Numbers of the same value and the same kind. -/
def Indistinct (left right : Number) : Prop :=
  left.scaled = right.scaled ∧ left.isInteger = right.isInteger

mutual

/-- Values inside of others are equal when they have one structure and their numbers stand for the
same values and are of one kind. -/
theorem same_iff : ∀ {left right : Json}, left.WellFormed → right.WellFormed →
    (left.same right = true ↔ Corresponds Indistinct left right)
  | .null, right, _, _ => by
    cases right with
    | null => exact iff_of_true rfl .null
    | bool | number | string | array | object => exact iff_of_false Bool.false_ne_true nofun
  | .bool value, right, _, _ => by
    cases right with
    | bool other =>
      rw [same, decide_eq_true_iff]
      exact ⟨fun equal => equal ▸ .bool value, fun | .bool _ => rfl⟩
    | null | number | string | array | object => exact iff_of_false Bool.false_ne_true nofun
  | .number left, right, leftFormed, rightFormed => by
    cases right with
    | number right =>
      rw [same, Number.same_iff leftFormed rightFormed]
      exact ⟨fun both => .number both, fun | .number both => both⟩
    | null | bool | string | array | object => exact iff_of_false Bool.false_ne_true nofun
  | .string text, right, _, _ => by
    cases right with
    | string other =>
      rw [same, decide_eq_true_iff]
      exact ⟨fun equal => equal ▸ .string text, fun | .string _ => rfl⟩
    | null | bool | number | array | object => exact iff_of_false Bool.false_ne_true nofun
  | .array lefts, right, leftFormed, rightFormed => by
    cases right with
    | array rights =>
      rw [same, sameItems_iff leftFormed rightFormed, forall₂_iff_getElem?]
      exact ⟨fun ⟨length, items⟩ => .array length items,
        fun | .array length items => ⟨length, items⟩⟩
    | null | bool | number | string | object => exact iff_of_false Bool.false_ne_true nofun
  | .object lefts, right, leftFormed, rightFormed => by
    cases right with
    | object rights =>
      rw [same, sameFields_iff leftFormed.2 rightFormed.2,
        Dictionary.sideBySide_iff leftFormed.1 rightFormed.1]
      exact ⟨fun ⟨keys, values⟩ => .object keys values,
        fun | .object keys values => ⟨keys, values⟩⟩
    | null | bool | number | string | array => exact iff_of_false Bool.false_ne_true nofun

theorem sameItems_iff : ∀ {lefts rights : List Json}, WellFormedItems lefts →
    WellFormedItems rights →
      (sameItems lefts rights = true ↔ List.Forall₂ (Corresponds Indistinct) lefts rights)
  | [], [], _, _ => by simp [sameItems]
  | [], _ :: _, _, _ => by simp [sameItems]
  | _ :: _, [], _, _ => by simp [sameItems]
  | left :: lefts, right :: rights, leftFormed, rightFormed => by
    rw [sameItems, Bool.and_eq_true, same_iff leftFormed.1 rightFormed.1,
      sameItems_iff leftFormed.2 rightFormed.2, List.forall₂_cons]

theorem sameFields_iff : ∀ {lefts rights : Dictionary Json}, WellFormedFields lefts →
    WellFormedFields rights →
      (sameFields lefts rights = true ↔
        Dictionary.SideBySide (Corresponds Indistinct) lefts rights)
  | [], [], _, _ => by simp [sameFields, Dictionary.SideBySide]
  | [], _ :: _, _, _ => by simp [sameFields, Dictionary.SideBySide]
  | _ :: _, [], _, _ => by simp [sameFields, Dictionary.SideBySide]
  | (leftKey, left) :: lefts, (rightKey, right) :: rights, leftFormed, rightFormed => by
    rw [sameFields, Bool.and_eq_true, Bool.and_eq_true, decide_eq_true_iff,
      same_iff leftFormed.1 rightFormed.1, sameFields_iff leftFormed.2 rightFormed.2,
      Dictionary.sideBySide_cons_iff]

end

end Json

/-! ### Numbers by themselves -/

theorem Double.equals_ofInt_self (value : Int) : (ofInt value).equals (ofInt value) = true := by
  rw [ofInt_eq_withSign, ofInt_natCast]
  rcases pack_cases false (roundHalfEven (value.natAbs * one) (twoTo (unitOf value.natAbs)))
    (unitOf value.natAbs) with infinite | ⟨significand, unit, finite, _⟩
  · rw [infinite]
    exact decide_eq_true rfl
  · rw [finite]
    exact decide_eq_true rfl

namespace Number

variable {left right : Number}

/-- An integer with more digits than a double has room for. -/
def IsLong : Number → Prop
  | integer value => twoTo 53 < value.natAbs
  | double _ => False

/-- A number that is no long integer is a double. -/
theorem scaled_toDouble (formed : left.WellFormed) (short : ¬ left.IsLong) :
    left.toDouble.isFinite = true ∧ left.toDouble.scaled = left.scaled := by
  cases left with
  | double value => exact ⟨formed.1, rfl⟩
  | integer value =>
    obtain ⟨exponent, scale, one_eq⟩ := Double.exists_one_eq
    rcases Nat.lt_or_eq_of_le (Nat.not_lt.mp short) with less | equal
    · have same : value.natAbs * twoTo exponent = value.natAbs * Double.one := by rw [one_eq]
      exact Double.scaled_ofInt_of_fits less (by omega) same
    · have same : twoTo 52 * twoTo (exponent + 1) = value.natAbs * Double.one := by
        rw [equal, one_eq, ← twoTo_add, ← twoTo_add]
        exact congrArg twoTo (by omega)
      exact Double.scaled_ofInt_of_fits (by decide) (by omega) same

/-- A double that stands for an integer is the double of this integer. -/
theorem equals_ofInt_of_scaled_eq {value : Int} {double : Double}
    (formed : (Number.double double).WellFormed) (same : value * Double.one = double.scaled) :
    (Double.ofInt value).equals double = true := by
  cases double with
  | nan | infinite => cases formed.1
  | finite negative significand unit =>
    obtain ⟨_, small, near, _⟩ := formed
    have magnitude : significand * twoTo unit = value.natAbs * Double.one := by
      have sizes := congrArg Int.natAbs same
      rw [Int.natAbs_mul, Int.natAbs_natCast, Double.scaled] at sizes
      rw [sizes]
      split
      · rw [Int.natAbs_neg, Int.natAbs_natCast]
      · rw [Int.natAbs_natCast]
    obtain ⟨finite, exact⟩ := Double.scaled_ofInt_of_fits small near magnitude
    rw [Double.equals_iff finite rfl, exact, same]

/-- Numbers that stand for the same value have the same double. -/
theorem equals_toDouble_of_scaled_eq (leftFormed : left.WellFormed)
    (rightFormed : right.WellFormed) (same : left.scaled = right.scaled) :
    left.toDouble.equals right.toDouble = true := by
  cases left with
  | integer first =>
    cases right with
    | integer second =>
      rw [scaled_integer_inj.mp same]
      exact Double.equals_ofInt_self second
    | double second => exact equals_ofInt_of_scaled_eq rightFormed same
  | double first =>
    cases right with
    | integer second =>
      rw [Double.equals_comm]
      exact equals_ofInt_of_scaled_eq leftFormed same.symm
    | double second => exact (Double.equals_iff leftFormed.1 rightFormed.1).mpr same

/-- Only a long integer has the double of another value. -/
theorem isLong_of_equals (leftFormed : left.WellFormed) (rightFormed : right.WellFormed)
    (near : left.toDouble.equals right.toDouble = true) (apart : left.scaled ≠ right.scaled) :
    left.IsLong ∨ right.IsLong := by
  refine Classical.byContradiction fun short => ?_
  rw [not_or] at short
  obtain ⟨leftFinite, leftExact⟩ := scaled_toDouble leftFormed short.1
  obtain ⟨rightFinite, rightExact⟩ := scaled_toDouble rightFormed short.2
  rw [Double.equals_iff leftFinite rightFinite, leftExact, rightExact] at near
  exact apart near

end Number

/-! ### Equality of resolved values -/

namespace Resolved

/-- Both are undefined, or they have one structure and numbers of the same exact values in it. -/
inductive Agrees : Resolved → Resolved → Prop where
  | undefined : Agrees none none
  | defined {left right : Json}
      (corresponds :
        Json.Corresponds (fun first second => first.scaled = second.scaled) left right) :
    Agrees (some left) (some right)

/-- Somewhere inside an integer stands where the other has a double. -/
inductive Mixes : Resolved → Resolved → Prop where
  | inside {left right : Json} {first second : Number}
      (within : ∀ number, left ≠ .number number) (opposite : left.Opposite right first second)
      (kinds : first.isInteger ≠ second.isInteger) : Mixes (some left) (some right)

/-- Two numbers stand for different values and have one double. -/
inductive Merges : Resolved → Resolved → Prop where
  | numbers {first second : Number} (apart : first.scaled ≠ second.scaled)
      (near : first.toDouble.equals second.toDouble = true) :
    Merges (some (.number first)) (some (.number second))

/-- Numbers by themselves are equal when they stand for the same value or are merged. -/
theorem strictEquals_numbers_iff {first second : Number} (firstFormed : first.WellFormed)
    (secondFormed : second.WellFormed) :
    strictEquals (some (.number first)) (some (.number second)) = true ↔
      (Agrees (some (.number first)) (some (.number second)) ∧
          ¬ Mixes (some (.number first)) (some (.number second))) ∨
        Merges (some (.number first)) (some (.number second)) := by
  rw [strictEquals]
  constructor
  · intro near
    by_cases same : first.scaled = second.scaled
    · exact .inl ⟨.defined (.number same), fun | .inside within _ _ => within first rfl⟩
    · exact .inr (.numbers same near)
  · rintro (⟨agrees, _⟩ | merges)
    · cases agrees with
      | defined corresponds =>
        cases corresponds with
        | number same => exact Number.equals_toDouble_of_scaled_eq firstFormed secondFormed same
    · cases merges with
      | numbers _ near => exact near

/-- Other values are equal when they agree and nothing in them is mixed. -/
theorem same_iff_agrees {left right : Json} (leftFormed : left.WellFormed)
    (rightFormed : right.WellFormed) (within : ∀ number, left ≠ .number number) :
    left.same right = true ↔
      (Agrees (some left) (some right) ∧ ¬ Mixes (some left) (some right)) ∨
        Merges (some left) (some right) := by
  have unmerged : ¬ Merges (some left) (some right) := fun | .numbers _ _ => within _ rfl
  rw [or_iff_left unmerged, Json.same_iff leftFormed rightFormed]
  refine Json.corresponds_and_iff.trans ⟨?_, ?_⟩
  · rintro ⟨corresponds, kinds⟩
    exact ⟨.defined corresponds, fun | .inside _ opposite mixed => mixed (kinds _ _ opposite)⟩
  · rintro ⟨agrees, unmixed⟩
    cases agrees with
    | defined corresponds =>
      refine ⟨corresponds, fun first second opposite => ?_⟩
      exact Classical.byContradiction fun mixed => unmixed (.inside within opposite mixed)

theorem strictEquals_values_iff {left right : Json} (leftFormed : left.WellFormed)
    (rightFormed : right.WellFormed) :
    strictEquals (some left) (some right) = true ↔
      (Agrees (some left) (some right) ∧ ¬ Mixes (some left) (some right)) ∨
        Merges (some left) (some right) := by
  by_cases numeral : ∃ number, left = .number number
  · obtain ⟨first, rfl⟩ := numeral
    cases right with
    | number second => exact strictEquals_numbers_iff leftFormed rightFormed
    | null | bool | string | array | object =>
      refine iff_of_false Bool.false_ne_true ?_
      rintro (⟨agrees, _⟩ | merges)
      · cases agrees with
        | defined corresponds => cases corresponds
      · cases merges
  · have within := not_exists.mp numeral
    have structural : strictEquals (some left) (some right) = left.same right := by
      cases left with
      | number first => exact absurd rfl (within first)
      | null | bool | string | array | object => rfl
    rw [structural, same_iff_agrees leftFormed rightFormed within]

/-- Resolved values are equal when they agree, with two exceptions: values that agree are not equal
if an integer stands for a double somewhere inside of them, and two numbers that do not agree are
equal if they have the same double, which takes an integer beyond `2 ^ 53`. -/
theorem strictEquals_iff_agrees (left right : Resolved)
    (leftFormed : ∀ value ∈ left, value.WellFormed)
    (rightFormed : ∀ value ∈ right, value.WellFormed) :
    (strictEquals left right = true ↔
        (Agrees left right ∧ ¬ Mixes left right) ∨ Merges left right) ∧
      (Merges left right → ∃ number : Number,
        (left = some (.number number) ∨ right = some (.number number)) ∧ number.IsLong) := by
  constructor
  · cases left with
    | none =>
      cases right with
      | none => exact iff_of_true rfl (.inl ⟨.undefined, nofun⟩)
      | some right => exact iff_of_false Bool.false_ne_true (not_or.mpr ⟨nofun, nofun⟩)
    | some left =>
      cases right with
      | none =>
        have unequal : strictEquals (some left) none ≠ true := by
          cases left <;> exact Bool.false_ne_true
        exact iff_of_false unequal (not_or.mpr ⟨nofun, nofun⟩)
      | some right => exact strictEquals_values_iff (leftFormed left rfl) (rightFormed right rfl)
  · intro merges
    cases merges with
    | @numbers first second apart near =>
      rcases Number.isLong_of_equals (leftFormed _ rfl) (rightFormed _ rfl) near apart with
        long | long
      · exact ⟨first, .inl rfl, long⟩
      · exact ⟨second, .inr rfl, long⟩

/-- The list of one is not equal to the list of the double for one, although they agree, and an
integer beyond `2 ^ 53` is equal to the one before it, although they do not. -/
theorem lists_of_one_differ :
    let one : Number := .integer 1
    let double : Number := .double (.finite false (twoTo 52) 1022)
    let long : Number := .integer 9007199254740993
    let before : Number := .integer 9007199254740992
    (Agrees (some (.array [.number one])) (some (.array [.number double])) ∧
      strictEquals (some (.array [.number one])) (some (.array [.number double])) ≠ true) ∧
    (¬ Agrees (some (.number long)) (some (.number before)) ∧
      strictEquals (some (.number long)) (some (.number before)) = true) := by
  intro one double long before
  have oneFormed : one.WellFormed := ⟨by decide, by decide⟩
  have doubleFormed : double.WellFormed := ⟨rfl, by decide, by decide, by decide⟩
  have longFormed : long.WellFormed := ⟨by decide, by decide⟩
  have beforeFormed : before.WellFormed := ⟨by decide, by decide⟩
  constructor
  · have same : one.scaled = double.scaled := by decide +kernel
    have agrees : Agrees (some (.array [.number one])) (some (.array [.number double])) :=
      .defined (.array rfl (forall₂_iff_getElem?.mp (.cons (.number same) .nil)).2)
    have mixes : Mixes (some (.array [.number one])) (some (.array [.number double])) :=
      .inside nofun
        (.item (show [Json.number one][0]? = some _ from rfl) rfl (.here one double)) nofun
    have compared := (strictEquals_iff_agrees (some (.array [.number one]))
      (some (.array [.number double])) (fun | _, rfl => ⟨oneFormed, trivial⟩)
      (fun | _, rfl => ⟨doubleFormed, trivial⟩)).1
    refine ⟨agrees, fun equal => ?_⟩
    rcases compared.mp equal with ⟨_, unmixed⟩ | merges
    · exact unmixed mixes
    · cases merges
  · have apart : long.scaled ≠ before.scaled := by decide +kernel
    have near : long.toDouble.equals before.toDouble = true := by decide +kernel
    have compared := (strictEquals_iff_agrees (some (.number long)) (some (.number before))
      (fun | _, rfl => longFormed) (fun | _, rfl => beforeFormed)).1
    refine ⟨fun agrees => ?_, compared.mpr (.inr (.numbers apart near))⟩
    cases agrees with
    | defined corresponds =>
      cases corresponds with
      | number same => exact apart same

end Resolved

end ChatFlow
