/-
**Why no table is built.**

The causes of a failed build, apart from their wording. What a build looked for and did not find is
a `Missing`, what is wrong with a request or with the records is an `Invalid`, and an `Overrun` is a
writer that leaves its buffer or does not fill it. `TableError.message` words all of them.
-/

import FirmwareTables.Repository.Error

namespace FirmwareTables

/-- What a build did not find. -/
inductive Missing where
  /-- A reference is the null token. -/
  | nullReference
  /-- No node carries a token. -/
  | node (token : Token)
  /-- No generator has an id. -/
  | generator (id : GeneratorId)
  /-- An array has fewer items than its node says. -/
  | items (count : Nat) (what : String) (token : Token) (found : Nat)
  /-- No device handle is stored under a token. -/
  | handle (token : Token)
  /-- Something that only a text describes. -/
  | other (text : String)
  deriving DecidableEq

/-- The words for what was not found. -/
def Missing.message : Missing → String
  | .nullReference => "reference to the null token"
  | .node token => s!"node for {token.debugText}"
  | .generator id => s!"generator {id.text}"
  | .items count what token found =>
    s!"{Digits.decimal count} {what} under {token.debugText}, found {Digits.decimal found}"
  | .handle token => s!"device handle {token.debugText}"
  | .other text => text

/-- What is wrong with a request or with the records. -/
inductive Invalid where
  /-- A table would be shorter than its header. -/
  | shortTable (length headerLength : Nat)
  /-- A table would be longer than its length field can say. -/
  | longTable (length : Nat)
  /-- A table handed back is too short to come from a generator. -/
  | foreignBytes (own : Signature) (length : Nat)
  /-- A table handed back has another signature. -/
  | foreignTable (own : Signature) (found : Option Signature)
  /-- A request went to another generator than it names. -/
  | generatorId (requested own : GeneratorId)
  /-- A request is for another table than its generator builds. -/
  | signature (requested own : Signature)
  /-- A request is for a revision that the generator does not build. -/
  | revision (own : Signature) (requested least greatest : UInt8)
  /-- A generator has this id already. -/
  | generatorTaken (id : GeneratorId)
  /-- A category has to have nodes. -/
  | noNodes (category : String)
  /-- A category may have one node only. -/
  | notSingle (count : Nat) (category : String)
  /-- A category loads another number of nodes than was counted. -/
  | changedCount (category : String) (counted loaded : Nat)
  /-- A node is longer than allowed. -/
  | longNode (category : String) (size limit : Nat)
  /-- All nodes together are longer than allowed. -/
  | longTotal (limit : Nat)
  /-- A place in the table has no 32-bit number. -/
  | wideOffset (value : Nat)
  /-- Two processor interfaces have the same processor id. -/
  | sharedProcessor (first second : Nat) (uid : UInt32)
  /-- A generic initiator has no handle. -/
  | nullHandle
  /-- No handles are of this kind. -/
  | handleType (number : UInt8)
  /-- The length of a node has no 16-bit number. -/
  | wideNode (kind : String) (length : Nat)
  /-- The number of remapping nodes has no 32-bit number. -/
  | manyNodes
  /-- Something that only a text describes. -/
  | other (text : String)
  deriving DecidableEq

/-- The words for what is wrong. -/
def Invalid.message : Invalid → String
  | .shortTable length headerLength =>
    s!"table length {Digits.decimal length} is smaller than the " ++
    s!"{Digits.decimal headerLength}-byte header"
  | .longTable length => s!"table length {Digits.decimal length} exceeds u32"
  | .foreignBytes own length =>
    s!"{own.text}: table of {Digits.decimal length} bytes was not built by this generator"
  | .foreignTable own found =>
    let found := match found with
      | some carried => s!"Some({carried.debugText})"
      | none => "None"
    s!"{own.text}: cannot free a {found} table"
  | .generatorId requested own => s!"request for generator {requested.text} sent to {own.text}"
  | .signature requested own => s!"request for {requested.text} sent to the {own.text} generator"
  | .revision own requested least greatest =>
    s!"{own.text} revision {Digits.decimal requested.toNat} outside " ++
    s!"{Digits.decimal least.toNat}..={Digits.decimal greatest.toNat}"
  | .generatorTaken id => s!"generator {id.text} already registered"
  | .noNodes category => s!"no {category} nodes"
  | .notSingle count category => s!"{Digits.decimal count} {category} nodes, expected one"
  | .changedCount category counted loaded =>
    s!"{category} changed from {Digits.decimal counted} to {Digits.decimal loaded} nodes " ++
    "during the build"
  | .longNode category size limit =>
    s!"{category} node of {Digits.decimal size} bytes exceeds {Digits.decimal limit}"
  | .longTotal limit => s!"table exceeds {Digits.decimal limit} bytes"
  | .wideOffset value => s!"offset {Digits.decimal value} exceeds u32"
  | .sharedProcessor first second uid =>
    s!"GICC {Digits.decimal first} and {Digits.decimal second} share ACPI processor UID " ++
    s!"0x{Digits.hexadecimal uid.toNat}"
  | .nullHandle => "generic initiator device handle token is null"
  | .handleType number => s!"device handle type {Digits.decimal number.toNat}"
  | .wideNode kind length => s!"{kind} node of {Digits.decimal length} bytes"
  | .manyNodes => "too many IORT nodes"
  | .other text => text

/-- How a writer misses its buffer. -/
inductive Overrun where
  /-- Bytes would end past the buffer. -/
  | write (length position size : Nat)
  /-- A run of zeros would end past the buffer. -/
  | skip (length position size : Nat)
  /-- The new position is past the buffer. -/
  | seek (position size : Nat)
  /-- The buffer is not full. -/
  | unfinished (position size : Nat)
  /-- Something that only a text describes. -/
  | other (text : String)
  deriving DecidableEq

/-- The words for a writer that misses its buffer. -/
def Overrun.message : Overrun → String
  | .write length position size =>
    s!"write of {Digits.decimal length} bytes at {Digits.decimal position} overruns " ++
    s!"{Digits.decimal size}-byte buffer"
  | .skip length position size =>
    s!"skip of {Digits.decimal length} bytes at {Digits.decimal position} overruns " ++
    s!"{Digits.decimal size}-byte buffer"
  | .seek position size =>
    s!"seek to {Digits.decimal position} past {Digits.decimal size}-byte buffer"
  | .unfinished position size =>
    s!"wrote {Digits.decimal position} of {Digits.decimal size} bytes"
  | .other text => text

/-- Why no table is built. -/
inductive TableError where
  /-- Something needed is not there. -/
  | notFound (missing : Missing)
  /-- A request or a record is wrong. -/
  | invalidParameter (invalid : Invalid)
  /-- Memory for this many bytes is lacking. -/
  | outOfResources (length : Nat)
  /-- A writer misses its buffer. -/
  | badBufferSize (overrun : Overrun)
  /-- The tables cannot be built yet. -/
  | unsupported (text : String)
  /-- The repository refused. -/
  | repository (error : RepositoryError)
  deriving DecidableEq

namespace TableError

/-- Whether something needed was not there. -/
def isNotFound : TableError → Bool
  | notFound _ => true
  | repository error => error.isNotFound
  | _ => false

/-- Whether a request or a record was wrong. -/
def isInvalidParameter : TableError → Bool
  | invalidParameter _ => true
  | repository error => error.isInvalidParameter
  | _ => false

/-- The words for a failed build. -/
def message : TableError → String
  | notFound missing => s!"not found: {missing.message}"
  | invalidParameter invalid => s!"invalid parameter: {invalid.message}"
  | outOfResources length => s!"out of resources: cannot allocate {Digits.decimal length} bytes"
  | badBufferSize overrun => s!"bad buffer size: {overrun.message}"
  | unsupported text => s!"unsupported: {text}"
  | repository error => s!"repository error: {error.message}"

/-- The words for a failed build and for what caused it. -/
def trail (error : TableError) : List String :=
  match error with
  | repository cause => [error.message, cause.message]
  | _ => [error.message]

end TableError

end FirmwareTables
