import TokenPattern.Regex.Fault
import TokenPattern.Unicode.Property

/-!
# Flags and blanks

Flags change the meaning of what follows them: `(?i)` up to the end of the group around it,
`(?i:…)` up to the end of its own group.  With the flag `x`, blanks and comments between the
elements of an expression do not count; `Flags.skip` drops them.
-/

namespace TokenPattern.Regex

open Unicode (isWhiteSpace)

/-! ## Flags -/

/-- What can be switched on and off. -/
inductive Flag where
  | ignoreCase
  | multiLine
  /-- The point accepts line ends, too. -/
  | pointAcceptsAll
  /-- Repetitions prefer few steps, and many if a question mark follows. -/
  | swapPreference
  | unicode
  /-- Carriage returns end lines, too. -/
  | carriageReturn
  | extended
deriving DecidableEq

/-- The flag with a letter. -/
def Flag.ofChar? : Char → Option Flag
  | 'i' => some ignoreCase
  | 'm' => some multiLine
  | 's' => some pointAcceptsAll
  | 'U' => some swapPreference
  | 'u' => some unicode
  | 'R' => some carriageReturn
  | 'x' => some extended
  | _ => none

/-- The flags in force at some place. -/
structure Flags where
  ignoreCase : Bool
  multiLine : Bool
  pointAcceptsAll : Bool
  swapPreference : Bool
  unicode : Bool
  carriageReturn : Bool
  extended : Bool

namespace Flags

/-- The flags at the start of an expression. -/
def initial : Flags := ⟨false, false, false, false, true, false, false⟩

/-- Switches one flag. -/
def switch (f : Flags) : Flag × Bool → Flags
  | (.ignoreCase, on) => { f with ignoreCase := on }
  | (.multiLine, on) => { f with multiLine := on }
  | (.pointAcceptsAll, on) => { f with pointAcceptsAll := on }
  | (.swapPreference, on) => { f with swapPreference := on }
  | (.unicode, on) => { f with unicode := on }
  | (.carriageReturn, on) => { f with carriageReturn := on }
  | (.extended, on) => { f with extended := on }

/-- Switches flags one after the other. -/
def switchAll (f : Flags) (changes : List (Flag × Bool)) : Flags := changes.foldl switch f

end Flags

/-- Reads flags up to a colon or a closing parenthesis, and returns them with that character and
what follows it.  Flags behind a hyphen are switched off; each may occur once. -/
def readFlags (seen : List (Flag × Bool)) (negated dangling : Bool) :
    List Char → Except Fault (List (Flag × Bool) × Char × List Char)
  | [] => .error .unexpectedEnd
  | c :: rest =>
    if c = ':' || c = ')' then
      if dangling then .error .danglingNegation else .ok (seen, c, rest)
    else if c = '-' then
      if negated then .error .danglingNegation else readFlags seen true true rest
    else
      match Flag.ofChar? c with
      | some flag =>
        if seen.any fun s => s.1 = flag then .error .repeatedFlag
        else readFlags (seen ++ [(flag, !negated)]) negated false rest
      | none => .error (.unknownFlag c)

/-! ## Blanks -/

/-- Drops white space and comments, which run from a number sign to the end of the line. -/
def skipBlanks (inComment : Bool) : List Char → List Char
  | [] => []
  | c :: rest =>
    if inComment then skipBlanks (c != '\n') rest
    else if isWhiteSpace c then skipBlanks false rest
    else if c = '#' then skipBlanks true rest
    else c :: rest

/-- Drops what does not count under the flags. -/
def Flags.skip (f : Flags) (cs : List Char) : List Char :=
  if f.extended then skipBlanks false cs else cs

/-- Takes characters that pass a test, dropping what does not count behind each, at most `fuel`. -/
def Flags.collect (f : Flags) (test : Char → Bool) : Nat → List Char → List Char × List Char
  | 0, cs => ([], cs)
  | _, [] => ([], [])
  | fuel + 1, c :: rest =>
    if test c then
      let (taken, rest) := f.collect test fuel (f.skip rest)
      (c :: taken, rest)
    else ([], c :: rest)

/-- Takes characters that pass a test. -/
def Flags.takeWhile (f : Flags) (test : Char → Bool) (cs : List Char) : List Char × List Char :=
  f.collect test cs.length cs

/-! ## What is left -/

theorem skipBlanks_suffix (inComment : Bool) (cs : List Char) :
    skipBlanks inComment cs <:+ cs := by
  induction cs generalizing inComment with
  | nil => exact List.suffix_refl _
  | cons c rest ih =>
    simp only [skipBlanks]
    split
    · exact (ih _).trans (List.suffix_cons c rest)
    · split
      · exact (ih _).trans (List.suffix_cons c rest)
      · split
        · exact (ih _).trans (List.suffix_cons c rest)
        · exact List.suffix_refl _

/-- Skipping leaves the end of what it was given. -/
theorem Flags.skip_suffix (f : Flags) (cs : List Char) : f.skip cs <:+ cs := by
  simp only [Flags.skip]
  split
  · exact skipBlanks_suffix false cs
  · exact List.suffix_refl _

end TokenPattern.Regex
