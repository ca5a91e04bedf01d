import TokenPattern.Unicode.RangeTable

/-!
# Editions of the character database

The database of characters grows from edition to edition.  Two of them are in use here: regular
expressions keep to the sixteenth, everything else follows the seventeenth.  The later one assigns
the code points in `newcomers` and agrees with the earlier one on nearly all others, so that most
properties are described once, for the later edition, and cut down by `Edition.includes`.
-/

namespace TokenPattern.Unicode

/-- The editions in use. -/
inductive Edition where
  | sixteenth
  | seventeenth
deriving DecidableEq

/-- The code points that the seventeenth edition was the first to assign. -/
def newcomers : RangeTable := RangeTable.ofText
    "88f c5c cdc 1acf-1add 1ae0-1aeb 20c1 2b96 a7ce-a7cf a7d2 a7d4 a7f1 fbc3-fbd2 fd90-fd91
    fdc8-fdce 10940-10959 10ec5-10ec7 10ed0-10ed8 10efa-10efb 11b60-11b67 11db0-11ddb 11de0-11de9
    16ea0-16eb8 16ebb-16ed3 16ff2-16ff6 187f8-187ff 18d09-18d1e 18d80-18df2 1ccfa-1ccfc 1ceba-1ced0
    1cee0-1cef0 1e6c0-1e6de 1e6e0-1e6f5 1e6fe-1e6ff 1f6d8 1f777-1f77a 1f8d0-1f8d8 1fa54-1fa57 1fa8a
    1fa8e 1fac8 1facd 1faea 1faef 1fbfa 2b73a-2b73f 2cea2-2cead 323b0-33479"

namespace Edition

/-- Whether a code point is assigned no later than in an edition, or not at all. -/
def includes (e : Edition) (c : Char) : Bool :=
  match e with
  | sixteenth => !newcomers.contains c.toNat
  | seventeenth => true

/-- Whether an edition knows a character to be in a table of the later edition. -/
def lists (e : Edition) (table : RangeTable) (c : Char) : Bool :=
  table.contains c.toNat && e.includes c

end Edition

end TokenPattern.Unicode
