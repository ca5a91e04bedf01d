import TokenPattern.Expr
import TokenPattern.Matcher.CharClass

/-!
# Ready-made patterns over characters

One character of a class, or one or more of them, under the names by which they are found in
`Catalog.find?`; and four larger patterns with named groups:

* `domainName` — a dotted domain name;
* `email` — an address, with the groups `user` and `domain`;
* `url` — a web address, with the groups `proto`, `auth`, `domain`, `path`, `query` and `hash`, and
  `user` and `password` inside `auth`;
* `htmlTag` — an opening or self-closing tag, with the groups `name` and `attr`, and `name` and
  `value` inside `attr`.
-/

namespace TokenPattern

/-- Patterns over characters that yield the characters they accept. -/
abbrev CharPattern := Expr (Matcher Char Char)

namespace Catalog

open TokenPattern.Expr (leaf maybe star capture)

/-! ## Characters -/

/-- One character of a class. -/
def one (c : CharClass) : CharPattern := leaf (Matcher.charClass c)

/-- One or more characters of a class. -/
def many (c : CharClass) : CharPattern := (one c).atLeast 1

/-- One given character. -/
def char (c : Char) : CharPattern := leaf (Matcher.exact c)

/-- The characters of a text, given by its first one and the others. -/
def lit (first : Char) (rest : String := "") : CharPattern :=
  (char first).chainFrom (rest.toList.map char)

/-- One hexadecimal digit. -/
def hexDigit : CharPattern := leaf (Matcher.ranges [('a', 'f'), ('A', 'F'), ('0', '9')])

/-- One or more hexadecimal digits. -/
def hexDigits : CharPattern := hexDigit.atLeast 1

/-- White space or nothing. -/
def spacesMaybe : CharPattern := star (one .space)

/-- Letters and digits of ASCII, at least one. -/
def alnums : CharPattern := many .asciiAlnum

/-! ## Domain names and addresses -/

/-- One label of a domain name: runs of letters and digits with single dashes between them, perhaps
behind `xn--`. -/
def domainLabel : CharPattern := maybe (lit 'x' "n--") + alnums + star (lit '-' + alnums)

/-- At least two labels with dots between them, the last of at least two letters and digits. -/
def domainName : CharPattern :=
  domainLabel + star (lit '.' + domainLabel) + lit '.' + (one .asciiAlnum).atLeast 2

/-- The name of a mailbox: runs of letters and digits with single plus signs or dots between
them. -/
def mailbox : CharPattern := alnums + star (leaf (Matcher.inSet ['+', '.']) + alnums)

/-- A mailbox at a domain. -/
def email : CharPattern := capture "user" mailbox + lit '@' + capture "domain" domainName

/-! ## Web addresses -/

/-- Letters, digits, plus signs and characters given by two hexadecimal digits. -/
def encoded : CharPattern :=
  (one .asciiAlnum ||| (lit '%' + hexDigit + hexDigit) ||| lit '+').atLeast 1

/-- One variable of a query, perhaps with a value. -/
def queryVariable : CharPattern := encoded + maybe (lit '=' + encoded)

/-- A web address. -/
def url : CharPattern :=
  capture "proto" (lit 'h' "ttp" + maybe (lit 's')) + lit ':' "//"
    + maybe (capture "auth" (capture "user" encoded + lit ':' + capture "password" encoded)
        + lit '@')
    + capture "domain" domainName
    + maybe (lit '/' + capture "path" (maybe (encoded + star (lit '/' + encoded))))
    + maybe (lit '?' + capture "query" (queryVariable + star (lit '&' + queryVariable)))
    + maybe (lit '#' + capture "hash" encoded)

/-! ## Tags -/

/-- The name of a tag or an attribute: runs of letters and digits with single dashes between
them. -/
def ident : CharPattern := alnums + star (lit '-' + alnums)

/-- A value between two equal quotes. -/
def quoted (q : Char) : CharPattern :=
  char q + capture "value" (star (leaf (Matcher.not id (Matcher.inSet [q, '>'])))) + char q

/-- Whether a character may stand in a value without quotes. -/
def isBare (c : Char) : Bool :=
  !CharClass.space.contains c && !(c == '/' || c == '>' || c == '\'' || c == '"')

/-- A value without quotes. -/
def bare : CharPattern :=
  (leaf (Matcher.test "bare attribute value" isBare)).atLeast 1

/-- An attribute, perhaps with a value. -/
def attr : CharPattern :=
  capture "attr"
    (capture "name" ident
      + maybe (spacesMaybe + lit '=' + spacesMaybe
          + (quoted '\'' ||| quoted '"' ||| capture "value" bare)))

/-- An opening or self-closing tag. -/
def htmlTag : CharPattern :=
  lit '<' + spacesMaybe + capture "name" ident + star (many .space + attr) + spacesMaybe
    + (lit '/' ">" ||| lit '>')

/-! ## Names -/

/-- The patterns by name. -/
def entries : List (String × CharPattern) :=
  [("alpha", one .alpha), ("alphas", many .alpha),
    ("alnum", one .alnum), ("alnums", many .alnum),
    ("digit", one .digit), ("digits", many .digit),
    ("numeric", one .numeric), ("numerics", many .numeric),
    ("space", one .space), ("spaces", many .space), ("spaces_maybe", spacesMaybe),
    ("lower", one .lower), ("lowers", many .lower),
    ("upper", one .upper), ("uppers", many .upper),
    ("printable", one .printable), ("printables", many .printable),
    ("hex_digit", hexDigit), ("hex_digits", hexDigits),
    ("ascii_alpha", one .asciiAlpha), ("ascii_alphas", many .asciiAlpha),
    ("ascii_alnum", one .asciiAlnum), ("ascii_alnums", many .asciiAlnum),
    ("ascii_lower", one .asciiLower), ("ascii_lowers", many .asciiLower),
    ("ascii_upper", one .asciiUpper), ("ascii_uppers", many .asciiUpper),
    ("ascii_space", one .asciiSpace), ("ascii_spaces", many .asciiSpace),
    ("ascii_printable", one .asciiPrintable), ("ascii_printables", many .asciiPrintable),
    ("decimal", one .decimal), ("decimals", many .decimal),
    ("lower_alnum", one .lowerAlnum), ("lower_alnums", many .lowerAlnum),
    ("upper_alnum", one .upperAlnum), ("upper_alnums", many .upperAlnum),
    ("domain_name", domainName), ("email", email), ("url", url), ("html_tag", htmlTag)]

/-- The pattern with a name. -/
def find? (name : String) : Option CharPattern :=
  (entries.find? fun e => e.1 == name).map Prod.snd

end Catalog

end TokenPattern
