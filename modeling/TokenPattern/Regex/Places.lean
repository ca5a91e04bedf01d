/-!
# Sets of places in a text

A place in a text is the number of characters before it.  A set of places is a number, in which the
binary digit of every place in the set is one (`Nat.testBit`), so that a step of a whole set is an
operation on one number.

`Places.before` and `Places.between` find the places where a test on the characters beside them
holds; `Places.advance` moves on by one character.
-/

namespace TokenPattern

/-- A set of places. -/
abbrev Places := Nat

namespace Places

/-- The set with the places whose truth values are given, from the first place on. -/
def ofList (values : List Bool) : Places :=
  values.foldr (fun value places => 2 * places + value.toNat) 0

/-- All places of a text. -/
def all (text : List Char) : Places := 1 <<< (text.length + 1) - 1

/-- The places before a character that passes a test. -/
def before (test : Char → Bool) (text : List Char) : Places := ofList (text.map test)

/-- The places where a test holds on the characters on both sides, which may be absent. -/
def between (test : Option Char → Option Char → Bool) (text : List Char) : Places :=
  ofList (List.zipWith test (none :: text.map some) (text.map some ++ [none]))

/-- The places behind the character at those places that are in another set, too. -/
def advance (here places : Places) : Places := (places &&& here) <<< 1

/-! ## Members -/

/-- A place is in the set if its truth value is. -/
theorem testBit_ofList (values : List Bool) (i : Nat) :
    (ofList values).testBit i = values.getD i false := by
  induction values generalizing i with
  | nil => simp [ofList]
  | cons value rest ih =>
    have hcons : ofList (value :: rest) = 2 * ofList rest + value.toNat := rfl
    rw [hcons]
    cases i with
    | zero => cases value <;> simp [Nat.testBit_zero]
    | succ i =>
      have hhalf (places : Nat) : (2 * places + value.toNat) / 2 = places := by
        cases value with
        | false => simp
        | true =>
          rw [Bool.toNat_true]
          omega
      rw [Nat.testBit_succ, hhalf, ih, List.getD_cons_succ]

/-- The places of a text are those up to its end. -/
theorem testBit_all (text : List Char) (i : Nat) :
    (all text).testBit i = decide (i ≤ text.length) := by
  rw [all, Nat.one_shiftLeft, Nat.testBit_two_pow_sub_one]
  exact decide_eq_decide.2 Nat.lt_succ_iff

/-- A place is before a character that passes, if the character there does. -/
theorem testBit_before (test : Char → Bool) (text : List Char) (i : Nat) :
    (before test text).testBit i = (text[i]?.map test).getD false := by
  rw [before, testBit_ofList]
  simp

/-- Nothing is reached in front of the first character. -/
theorem testBit_advance_zero (here places : Places) : (advance here places).testBit 0 = false := by
  simp [advance]

/-- A place is reached from the one before it. -/
theorem testBit_advance_succ (here places : Places) (i : Nat) :
    (advance here places).testBit (i + 1) = (places.testBit i && here.testBit i) := by
  simp [advance, Nat.testBit_shiftLeft]

end Places

end TokenPattern
