import Wrangle.Value.Equality
import Wrangle.Value.Render

/-!
# Settled values

A single value that a computation gives may be repeated in many places.  Before
that, the undefined numbers and objects in it that are fresh are numbered, so
that each copy is the same as every other.  The numbers come from a digest of what
the value was computed from; a value that holds none of these stays as it is.
-/

namespace Wrangle

open Number

namespace Value

/-!
# Digests
-/

mutual

def digest (seed : Nat) : Value -> Nat
  | float x origin => Digest.pushOrigin (Digest.pushText seed (floatText x)) origin
  | decimal d origin => Digest.pushOrigin (Digest.pushText seed d.text) origin
  | complex re im origin =>
      Digest.pushOrigin (Digest.pushText seed (complexText re im)) origin
  | iterator kind _ _ origin => Digest.pushOrigin (Digest.pushText seed kind) origin
  | other kind origin => Digest.pushOrigin (Digest.pushText seed kind) origin
  | list items => digestAll (Digest.push seed items.length) items
  | column items => digestAll (Digest.push seed items.length) items
  | tuple items => digestAll (Digest.push seed items.length) items
  | set items => digestAll (Digest.push seed items.length) items
  | dict entries => digestEntries (Digest.push seed entries.length) entries
  | value => Digest.pushText seed value.renderSimple

def digestAll (seed : Nat) : List Value -> Nat
  | [] => seed
  | value :: rest => digestAll (digest seed value) rest

def digestEntries (seed : Nat) : List (Value × Value) -> Nat
  | [] => seed
  | (key, value) :: rest => digestEntries (digest (digest seed key) value) rest

end

/-!
# Numbering
-/

mutual

def isSettled : Value -> Bool
  | float x origin => !Binary.isUndefined x || origin != .fresh
  | decimal d origin => !d.isUndefined || origin != .fresh
  | complex re im origin =>
      !(Binary.isUndefined re || Binary.isUndefined im) || origin != .fresh
  | iterator _ _ _ origin => origin != .fresh
  | other _ origin => origin != .fresh
  | list items => areSettled items
  | tuple items => areSettled items
  | set items => areSettled items
  | dict entries => entriesAreSettled entries
  | _ => true

def areSettled : List Value -> Bool
  | [] => true
  | value :: rest => isSettled value && areSettled rest

def entriesAreSettled : List (Value × Value) -> Bool
  | [] => true
  | (key, value) :: rest => isSettled key && isSettled value && entriesAreSettled rest

end

mutual

def numbered (n : Nat) : Value -> Value
  | float x origin => float x (if Binary.isUndefined x then origin.withNumber n else origin)
  | decimal d origin => decimal d (if d.isUndefined then origin.withNumber n else origin)
  | complex re im origin =>
      complex re im
        (if Binary.isUndefined re || Binary.isUndefined im then origin.withNumber n else origin)
  | iterator kind items stop origin => iterator kind items stop (origin.withNumber n)
  | other kind origin => other kind (origin.withNumber n)
  | list items => list (allNumbered n items)
  | tuple items => tuple (allNumbered n items)
  | set items => set (allNumbered n items)
  | dict entries => dict (entriesNumbered n entries)
  | value => value

def allNumbered (n : Nat) : List Value -> List Value
  | [] => []
  | value :: rest => numbered (Digest.push n 0) value :: allNumbered (Digest.push n 1) rest

def entriesNumbered (n : Nat) : List (Value × Value) -> List (Value × Value)
  | [] => []
  | (key, value) :: rest =>
      (numbered (Digest.push n 0) key, numbered (Digest.push n 1) value) ::
        entriesNumbered (Digest.push n 2) rest

end

def settled (name : String) (sources : List Value) (value : Value) : Value :=
  if value.isSettled then value
  else value.numbered (digestAll (Digest.pushText 1 name) sources)

end Value
end Wrangle
