import TextRecords.Regex.Syntax

/-!
# Flags of patterns

The flags that tell how a pattern is read and what its parts stand for: which blanks and comments
are passed over, which sets are closed under letter case, and which sets may be matched at all.
-/

namespace TextRecords.Regex

open Unicode (CharSet)

/-- The flags in force at a place of a pattern. -/
structure Flags where
  caseless : Bool := false
  multiLine : Bool := false
  dotAll : Bool := false
  lazyFirst : Bool := false
  unicode : Bool := true
  anyLineEnd : Bool := false
  verbose : Bool := false

namespace Flags

/-- The word class that the flags select. -/
def words (flags : Flags) : WordClass :=
  if flags.unicode then .unicode else .ascii

/-- The next significant text: under the verbose flag, blanks are passed over, and comments, which
run from a number sign to the end of the line. -/
def skip (flags : Flags) (text : List Char) : List Char :=
  if flags.verbose then notes text else text
where
  /-- A text after its blanks and comments. -/
  notes : List Char → List Char
    | [] => []
    | c :: rest =>
      if Text.isBlank c then notes rest
      else if c == '#' then comment rest
      else c :: rest
  /-- A text after the end of the comment it starts in, and what is skipped there. -/
  comment : List Char → List Char
    | [] => []
    | c :: rest => if c == '\n' then notes rest else comment rest

/-- The significant characters before a closing brace, and the text after the brace. -/
def braced? (flags : Flags) (text : List Char) : Option (List Char × List Char) :=
  gather false text
where
  gather (inComment : Bool) : List Char → Option (List Char × List Char)
    | [] => none
    | c :: rest =>
      if inComment then gather (c != '\n') rest
      else if flags.verbose && Text.isBlank c then gather false rest
      else if flags.verbose && c == '#' then gather true rest
      else if c == '\x7d' then some ([], rest)
      else (gather false rest).map fun (inner, after) => (c :: inner, after)

/-- A set closed under the letter case that the flags ignore. -/
def fold (flags : Flags) (set : CharSet) : CharSet :=
  if !flags.caseless then set
  else if flags.unicode then set.anyCase
  else set.anyAsciiCase

/-- A set that can be matched: without the Unicode flag a set goes by bytes, and one that leaves
ASCII could match part of a character. -/
def allow? (flags : Flags) (set : CharSet) : Option CharSet :=
  if flags.unicode || set.isAscii then some set else none

/-- A set or its complement, if it can be matched. -/
def negate? (flags : Flags) (negated : Bool) (set : CharSet) : Option CharSet :=
  flags.allow? (if negated then set.complement else set)

end Flags

end TextRecords.Regex
