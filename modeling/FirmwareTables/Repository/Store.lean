/-
**The store behind a repository.**

A store is a list of entries, each for one object id and one token, the entry stored last in front.
Reading takes all entries of an id, or those with the token if it is not null, and puts their
payloads together in that order. Storing replaces the entry with exactly the id and the token, the
null token being one like any other, and otherwise puts a new entry in front. Deleting takes away
what reading would find.
-/

import FirmwareTables.Repository.Reading

namespace FirmwareTables

/-- Some instances of one object under one token. -/
structure Entry where
  /-- The object. -/
  id : ObjectId
  /-- The token. -/
  token : Token
  /-- The number of instances. -/
  count : UInt32
  /-- The bytes of all instances. -/
  data : Bytes
  deriving DecidableEq

namespace Entry

/-- Whether reading or deleting under an id and a token finds the entry. -/
def isFound (id : ObjectId) (token : Token) (entry : Entry) : Bool :=
  entry.id == id && (token.isNull || entry.token == token)

/-- Whether the entry is for exactly the id and the token. -/
def isAt (id : ObjectId) (token : Token) (entry : Entry) : Bool :=
  entry.id == id && entry.token == token

end Entry

/-- What an entry holds, its payload by size only. -/
structure Summary where
  /-- The object. -/
  id : ObjectId
  /-- The token. -/
  token : Token
  /-- The number of instances. -/
  count : Nat
  /-- The number of bytes. -/
  size : Nat
  deriving DecidableEq

/-- The entries of a repository. -/
structure Store where
  /-- The entries, the one stored last in front. -/
  entries : List Entry
  deriving DecidableEq

namespace Store

/-- The store without entries. -/
def empty : Store := ⟨[]⟩

instance : Inhabited Store := ⟨empty⟩

/-- The entries that reading or deleting under an id and a token finds. -/
def found (store : Store) (id : ObjectId) (token : Token) : List Entry :=
  store.entries.filter (Entry.isFound id token)

/-- The number of instances in some entries. -/
def total : List Entry → Nat
  | [] => 0
  | entry :: entries => entry.count.toNat + total entries

/-- The instances under an id and a token, put together. -/
def get (store : Store) (id : ObjectId) (token : Token) : Except RepositoryError Descriptor :=
  let found := store.found id token
  let count := total found
  if maxCount < count then .error (.invalidParameter (.countOverflow id))
  else if count = 0 then .error (.notFound id token)
  else .ok ⟨id, token, UInt32.ofNat count, found.flatMap Entry.data⟩

/-- Puts an entry in the place of the one with its id and token, if there is one. -/
def replace? (entry : Entry) : List Entry → Option (List Entry)
  | [] => none
  | first :: rest =>
    if first.isAt entry.id entry.token then some (entry :: rest)
    else (replace? entry rest).map (first :: ·)

/-- Stores an entry in the place of the one with its id and token, or in front. -/
def put (store : Store) (entry : Entry) : Store :=
  ⟨(replace? entry store.entries).getD (entry :: store.entries)⟩

/-- Takes away what reading under an id and a token finds. -/
def delete (store : Store) (id : ObjectId) (token : Token) : Store :=
  ⟨store.entries.filter fun entry => !entry.isFound id token⟩

/-- Stores a payload under an id and a token, or deletes what is there if none is given. -/
def set (store : Store) (id : ObjectId) (token : Token) :
    Option Descriptor → Except RepositoryError Store
  | none => .ok (store.delete id token)
  | some descriptor =>
    if descriptor.id = id then .ok (store.put ⟨id, token, descriptor.count, descriptor.data⟩)
    else .error (.invalidParameter (.foreignDescriptor descriptor.id id))

/-- Takes a payload back; there has to be one. -/
def takeBack (descriptor : Descriptor) : Except RepositoryError Unit :=
  if descriptor.isEmpty then .error (.invalidParameter (.noPayload descriptor.id)) else .ok ()

/-- The protocol revision of a store. -/
def protocol : Revision := .make 1 1

/-- What a store shows. -/
def view (store : Store) : View := ⟨protocol, store.get, takeBack⟩

/-- The number of payload bytes in all entries. -/
def totalBytes (store : Store) : Nat := (store.entries.flatMap Entry.data).length

/-- The summaries of all entries, in order. -/
def summaries (store : Store) : List Summary :=
  store.entries.map fun entry => ⟨entry.id, entry.token, entry.count.toNat, entry.data.length⟩

end Store

end FirmwareTables
