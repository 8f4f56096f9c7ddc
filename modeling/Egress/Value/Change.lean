/-! # Changes

The ways in which a container can be changed, and what can stand in the way of a change that is
about the container and not about what is put into it. What a change does is said where containers
have places, in sessions.

* `Change`        the ways to change a container
* `ChangeFault`   why a container cannot be changed in a way -/

namespace Egress

/-- The ways to change a container. Any other way, such as sorting a list or intersecting a set,
ends with the content that one of these would have put there. -/
inductive Change where
  -- Assigns an element, at a position or under a key.
  | setItem
  | deleteItem
  -- Puts the elements of something into the place of all elements.
  | setAll
  | append
  -- Adds the elements of something at the end.
  | extend
  | insert
  -- Takes out the element at a position or under a key.
  | pop
  -- Takes out the entry that was put in last.
  | popEntry
  -- Takes out an element of a set, which may be any.
  | popAny (choice : Nat)
  | reverse
  | clear
  | add
  | discard
  -- Takes out an element that must be there.
  | remove
  -- Puts in the elements or entries of something.
  | update
  -- Puts a value under a key that has none.
  | setDefault
  deriving DecidableEq, Repr

/-- The name by which a change is called. -/
def Change.name : Change → String
  | setItem => "__setitem__"
  | deleteItem => "__delitem__"
  | setAll => "__setitem__"
  | append => "append"
  | extend => "extend"
  | insert => "insert"
  | pop | popAny _ => "pop"
  | popEntry => "popitem"
  | reverse => "reverse"
  | clear => "clear"
  | add => "add"
  | discard => "discard"
  | remove => "remove"
  | update => "update"
  | setDefault => "setdefault"

/-- Why a container cannot be changed in a way. -/
inductive ChangeFault where
  -- Containers of a type are not changed like this.
  | unsupported (typeName : String) (c : Change)
  -- Nothing of a type can be deleted; things that are reached by position are told apart.
  | deletion (typeName : String) (byPosition : Bool)
  -- A value of this type is no integer.
  | notInteger (typeName : String)
  | notByte
  -- A position that is no integer, by the words for the types of the container and of the position.
  | badIndex (container typeName : String)
  -- A position that the container does not have.
  | outOfRange (container : String)
  | popRange
  -- Nothing can be taken out of an empty sequence.
  | empty (container : String)
  | emptySet
  | emptyMap
  -- A key that is not there, as it is written down.
  | missing (shown : String)
  | notListed
  | notInBytes
  -- A list gets the elements of something that has none.
  | noElements
  -- Bytes are extended by something of a type without elements.
  | extension (typeName : String)
  -- Bytes get the elements of a text or of an integer.
  | noBytes
  -- Bytes get the elements of something of another type without elements.
  | inconvertible (typeName : String)
  -- An element that should be a key and a value, by its place.
  | noPair (place : Nat)
  | pairLength (place length : Nat)
  deriving DecidableEq, Repr

/-- The wording of a fault. -/
def ChangeFault.message : ChangeFault → String
  | .unsupported t .setItem | .unsupported t .setAll =>
    "'" ++ t ++ "' object does not support item assignment"
  | .unsupported t .deleteItem => "'" ++ t ++ "' object doesn't support item deletion"
  | .unsupported t c => "'" ++ t ++ "' object has no attribute '" ++ c.name ++ "'"
  | .deletion t byPosition =>
    "'" ++ t ++ "' object " ++ (if byPosition then "doesn't" else "does not") ++
      " support item deletion"
  | .notInteger t => "'" ++ t ++ "' object cannot be interpreted as an integer"
  | .notByte => "byte must be in range(0, 256)"
  | .badIndex container t => container ++ " indices must be integers or slices, not " ++ t
  | .outOfRange container => container ++ " index out of range"
  | .popRange => "pop index out of range"
  | .empty container => "pop from empty " ++ container
  | .emptySet => "'pop from an empty set'"
  | .emptyMap => "'popitem(): dictionary is empty'"
  | .missing shown => shown
  | .notListed => "list.remove(x): x not in list"
  | .notInBytes => "value not found in bytearray"
  | .noElements => "can only assign an iterable"
  | .extension t => "can't extend bytearray with " ++ t
  | .noBytes => "can assign only bytes, buffers, or iterables of ints in range(0, 256)"
  | .inconvertible t => "cannot convert '" ++ t ++ "' object to bytearray"
  | .noPair place =>
    "cannot convert dictionary update sequence element #" ++ toString place ++ " to a sequence"
  | .pairLength place length => "dictionary update sequence element #" ++ toString place ++
      " has length " ++ toString length ++ "; 2 is required"

end Egress
