/-!
# Hexadecimal digits

Code points in tables, escapes and patterns are written in hexadecimal.
-/

namespace TokenPattern.Text

/-- The value of a hexadecimal digit, in either case. -/
def hexDigit? (c : Char) : Option Nat :=
  if '0' ≤ c && c ≤ '9' then some (c.toNat - '0'.toNat)
  else if 'a' ≤ c && c ≤ 'f' then some (c.toNat - 'a'.toNat + 10)
  else if 'A' ≤ c && c ≤ 'F' then some (c.toNat - 'A'.toNat + 10)
  else none

/-- Appends the hexadecimal digits at the front of `cs` to a number, and returns what follows
them. -/
def readHex : Nat → List Char → Nat × List Char
  | n, [] => (n, [])
  | n, c :: cs =>
    match hexDigit? c with
    | some d => readHex (16 * n + d) cs
    | none => (n, c :: cs)

/-- The number that all of `cs` denotes, if there is at least one digit and nothing else. -/
def hexNumber? (cs : List Char) : Option Nat :=
  match cs, readHex 0 cs with
  | _ :: _, (n, []) => some n
  | _, _ => none

/-- The character with a code point, unless the number is none or belongs to a surrogate. -/
def charOfCode? (n : Nat) : Option Char :=
  if n < 0xd800 || (0xdfff < n && n < 0x110000) then some (Char.ofNat n) else none

/-- What `readHex` leaves is the end of what it was given. -/
theorem readHex_suffix (n : Nat) (cs : List Char) : (readHex n cs).2 <:+ cs := by
  fun_induction readHex n cs with
  | case1 => exact List.suffix_refl _
  | case2 n c cs d h ih => exact ih.trans (List.suffix_cons c cs)
  | case3 => exact List.suffix_refl _

end TokenPattern.Text
