import ContractClient.Keccak
import ContractClient.Interface.Parameter

namespace ContractClient

/-! Entries of a contract interface: functions, events, errors, and the special
entries that have no name. -/

inductive Mutability where
  | pure
  | view
  | nonpayable
  | payable
deriving DecidableEq, Repr

structure FunctionEntry where
  name : String
  inputs : List Parameter
  outputs : List Parameter
  mutability : Mutability

structure EventEntry where
  name : String
  inputs : List EventParameter
  anonymous : Bool

structure ConstructorEntry where
  inputs : List Parameter
  mutability : Mutability

structure ErrorEntry where
  name : String
  inputs : List Parameter

/-! ## Signatures and selectors -/

namespace FunctionEntry

def signature (entry : FunctionEntry) : String :=
  Parameter.signature entry.name entry.inputs

def selector (entry : FunctionEntry) : Selector :=
  FixedBytes.ofBytesPadded 4 (keccak256 (Bytes.ofText entry.signature)).bytes

end FunctionEntry

namespace EventEntry

def signature (entry : EventEntry) : String :=
  Parameter.signature entry.name (entry.inputs.map EventParameter.toParameter)

def selector (entry : EventEntry) : Word :=
  keccak256 (Bytes.ofText entry.signature)

/-- The first topic of the event's logs; anonymous events have none. -/
def topic? (entry : EventEntry) : Option Word :=
  if entry.anonymous then none else some entry.selector

def indexed (entry : EventEntry) : List EventParameter :=
  entry.inputs.filter fun parameter => parameter.indexed

def unindexed (entry : EventEntry) : List EventParameter :=
  entry.inputs.filter fun parameter => !parameter.indexed

end EventEntry

def ConstructorEntry.signature (entry : ConstructorEntry) : String :=
  Parameter.signature "constructor" entry.inputs

/-! ## Interfaces -/

/-- A contract interface. Functions, events and errors stand in the order of
their names, those of one name in the order of their declaration. -/
structure Interface where
  constructor : Option ConstructorEntry
  functions : List FunctionEntry
  events : List EventEntry
  errors : List ErrorEntry
  fallback : Option Mutability
  receive : Option Mutability

namespace Interface

def empty : Interface :=
  ⟨none, [], [], [], none, none⟩

/-! ## Looking up -/

def functionsNamed (interface : Interface) (name : String) : List FunctionEntry :=
  interface.functions.filter fun entry => entry.name == name

def functionBySelector (interface : Interface) (selector : Selector) : Option FunctionEntry :=
  interface.functions.find? fun entry => entry.selector == selector

def functionBySignature (interface : Interface) (signature : String) : Option FunctionEntry :=
  interface.functions.find? fun entry => entry.signature == signature

def eventsNamed (interface : Interface) (name : String) : List EventEntry :=
  interface.events.filter fun entry => entry.name == name

/-- The first event that is not anonymous and whose logs begin with the topic. -/
def eventByTopic (interface : Interface) (topic : Word) : Option EventEntry :=
  interface.events.find? fun entry => !entry.anonymous && entry.selector == topic

def eventBySignature (interface : Interface) (signature : String) : Option EventEntry :=
  interface.events.find? fun entry => entry.signature == signature

end Interface

inductive InterfaceEntry where
  | constructor (entry : ConstructorEntry)
  | function (entry : FunctionEntry)
  | event (entry : EventEntry)
  | fallback (mutability : Mutability)
  | receive (mutability : Mutability)

def Interface.entries (interface : Interface) : List InterfaceEntry :=
  interface.constructor.toList.map .constructor ++ interface.functions.map .function ++
    interface.events.map .event ++ interface.fallback.toList.map .fallback ++
    interface.receive.toList.map .receive

end ContractClient
