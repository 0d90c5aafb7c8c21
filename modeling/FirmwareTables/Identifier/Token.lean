/-
**Tokens.**

A token tells the entries of one object id apart, and lets one record refer to another. The null
token tags nothing and stands for any token when entries are read or deleted. An allocator issues
the numbers from one on, so that it never issues the null token.
-/

import FirmwareTables.Text.Digits

namespace FirmwareTables

/-- A tag of repository entries. -/
structure Token where
  /-- The number of the token. -/
  raw : UInt64
  deriving DecidableEq, Inhabited

namespace Token

/-- The token that tags nothing. -/
def null : Token := ⟨0⟩

/-- Whether a token tags nothing. -/
def isNull (token : Token) : Bool := token == null

/-- The text of a token. -/
def text (token : Token) : String := "0x" ++ Digits.hexadecimal token.raw.toNat

/-- The text of a token under its type's name. -/
def debugText (token : Token) : String :=
  if token.isNull then "Token(NULL)" else s!"Token({token.text})"

/-- The token issued after `issued` others. -/
def next (issued : Nat) : Token := ⟨UInt64.ofNat (issued + 1)⟩

end Token

end FirmwareTables
