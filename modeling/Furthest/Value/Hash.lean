import Furthest.Value.Equality

/-!
# Hashes of values, and the order of sets

A set keeps its elements in the slots of a table. The slot of an element is found from its
hash, and a set lists its elements in the order of their slots, which is therefore not the
order in which they came into the set.

Equal numbers have one hash, whatever their kind: it is the number modulo a prime of the
form `2 ^ 61 - 1`, in which every fraction of a power of two has a place. The hashes of
texts are chosen anew in every run of a program; sets of texts keep the order in which their
elements came.

## Main definitions

* `Value.unhashable?`: the kind of value because of which a value cannot be in a set.
* `Value.hash?`: the hash of a value, if it is the same in every run.
* `Value.setOrder`, `Value.unionOrder`: the orders in which a set and the union of two sets
  list their elements.
* `Value.ofSet`: the set of the values of a list.
-/

namespace Furthest

namespace Value

mutual

/-- The name of the type because of which a value cannot be in a set or a key of a
mapping. -/
def unhashable? : Value → Option Text
  | .list _ => some "list"
  | .dict _ => some "dict"
  | .byteArray _ => some "bytearray"
  | .mark .. => some "Mark"
  | .tuple vs => unhashableIn? vs
  | _ => Option.none

/-- The name of the type because of which a value of a list cannot be in a set. -/
def unhashableIn? : List Value → Option Text
  | [] => Option.none
  | v :: vs =>
    match unhashable? v with
    | some name => some name
    | Option.none => unhashableIn? vs

end

/-! ### Hashes -/

/-- A hash: sixty-four bits, of which the greatest value is kept for errors. -/
abbrev Hash := UInt64

/-- The prime that numbers are reduced by. -/
def hashPrime : Nat := 0x1FFFFFFFFFFFFFFF

/-- The hash of a number with the given residue. -/
def hashOfResidue (negative : Bool) (residue : Nat) : Hash :=
  if !negative then UInt64.ofNat residue
  else if residue = 1 then 0 - 2
  else 0 - UInt64.ofNat residue

/-- The hash of an integer. -/
def hashInt (n : Int) : Hash := hashOfResidue (n < 0) (n.natAbs % hashPrime)

/-- The hash of a floating point number. Sixty-one doublings change nothing. -/
def hashFloat? (x : Binary64) : Option Hash :=
  match x.classify with
  | .nan => Option.none
  | .infinite negative => some (hashOfResidue negative 314159)
  | .finite negative m q =>
    some (hashOfResidue negative (m * Nat.pow 2 (q % 61).toNat % hashPrime))

/-- Mixes the hash of one element into the hash of a tuple. -/
def mixTuple (acc lane : Hash) : Hash :=
  let acc := acc + lane * 14029467366897019727
  ((acc <<< 31) ||| (acc >>> 33)) * 11400714785074694791

/-- The hash of a tuple with elements of these hashes. -/
def hashTuple (lanes : List Hash) : Hash :=
  let start : Hash := 2870177450012600261
  let acc :=
    lanes.foldl mixTuple start + (UInt64.ofNat lanes.length ^^^ (start ^^^ (3527539 : UInt64)))
  if acc = 0 - 1 then 1546275796 else acc

/-- Spreads the bits of a hash. -/
def shuffled (h : Hash) : Hash := ((h ^^^ (89869747 : UInt64)) ^^^ (h <<< 16)) * 3644798167

/-- The hash of a set with elements of these hashes. -/
def hashSet (hashes : List Hash) : Hash :=
  let h := hashes.foldl (fun acc h => acc ^^^ shuffled h) 0
  let h := h ^^^ (UInt64.ofNat hashes.length + 1) * 1927868237
  let h := h ^^^ ((h >>> 11) ^^^ (h >>> 25))
  let h := h * 69069 + 907133923
  if h = 0 - 1 then 590923713 else h

mutual

/-- The hash of a value, if it is the same in every run. -/
def hash? : Value → Option Hash
  | .bool b => some (if b then 1 else 0)
  | .int n => some (hashInt n)
  | .float x => hashFloat? x
  | .text t => if t.isEmpty then some 0 else Option.none
  | .bytes bs => if bs.isEmpty then some 0 else Option.none
  | .tuple vs => (hashAll? vs).map hashTuple
  | .set vs => (hashAll? vs).map hashSet
  | _ => Option.none

/-- The hashes of the values of a list, if all are the same in every run. -/
def hashAll? : List Value → Option (List Hash)
  | [] => some []
  | v :: vs =>
    match hash? v, hashAll? vs with
    | some h, some hs => some (h :: hs)
    | _, _ => Option.none

end

/-! ### Tables -/

/-- A value in a table, with its hash. -/
abbrev Entry := Hash × Value

/-- A table with as many slots as a power of two, one more than its mask. -/
abbrev Table := List (Option Entry)

namespace Table

/-- A table without entries. -/
def empty (size : Nat) : Table := List.replicate size Option.none

/-- The entries in the order of their slots. -/
def entries (t : Table) : List Entry := t.filterMap id

/-- How many slots behind a slot are tried before another place is. -/
def neighbours : Nat := 9

/-- The first free slot from slot `i` on, among it and its neighbours. A slot too near to
the end has none. -/
def freeFrom? (t : Table) (i : Nat) : Option Nat :=
  let tried := if i + neighbours < t.length then neighbours + 1 else 1
  (List.range tried).findSome? fun k =>
    match t[i + k]? with
    | some Option.none => some (i + k)
    | _ => Option.none

/-- The slot for a new entry: places are tried from slot `i` on, and a further one follows
from the bits of the hash that are not used up yet. -/
def slotFrom (t : Table) : (fuel : Nat) → (i : Nat) → (bits : Hash) → Nat
  | 0, i, _ => i
  | fuel + 1, i, bits =>
    match freeFrom? t i with
    | some slot => slot
    | Option.none =>
      let bits := bits >>> 5
      slotFrom t fuel ((i * 5 + 1 + bits.toNat) % t.length) bits

/-- Puts a new entry into its slot. -/
def place (t : Table) (e : Entry) : Table :=
  t.set (slotFrom t (t.length + 16) (e.1.toNat % t.length) e.1) (some e)

/-- The least power of two above `n`, from `size` on. -/
def sizeAbove (n : Nat) : (fuel size : Nat) → Nat
  | 0, size => size
  | fuel + 1, size => if size ≤ n then sizeAbove n fuel (2 * size) else size

/-- Adds a new entry. When three fifths of the slots are taken, the entries move to a table
four times as large as their number, or twice if there are many. -/
def add (t : Table) (e : Entry) : Table :=
  let t := place t e
  let used := t.entries.length
  if used * 5 < (t.length - 1) * 3 then t
  else
    let wanted := if 50000 < used then used * 2 else used * 4
    t.entries.foldl place (empty (sizeAbove wanted (wanted + 1) 8))

/-- The table with these entries, added one by one. -/
def ofEntries (es : List Entry) : Table := es.foldl add (empty 8)

/-- Makes room for `n` more entries at once, if they would take three fifths of the
slots. -/
def reserve (t : Table) (n : Nat) : Table :=
  let used := t.entries.length
  if (used + n) * 5 < (t.length - 1) * 3 then t
  else t.entries.foldl place (empty (sizeAbove (2 * (used + n)) (2 * (used + n) + 1) 8))

/-- The table of all entries of two tables: those of the second one are added to a copy of
the first one, unless they are in it. The copy may be larger than the first table. -/
def union (t u : Table) : Table :=
  if u.entries.isEmpty then t
  else
    let room := (empty 8).reserve t.entries.length
    let copy := if room.length = t.length then t else t.entries.foldl place room
    (u.entries.filter fun e => !e.2.member (t.entries.map Prod.snd)).foldl add
      (copy.reserve u.entries.length)

end Table

/-- The values of a list without those that are equal to an earlier one. -/
def distinct (vs : List Value) : List Value :=
  vs.foldl (fun seen v => if v.member seen then seen else seen ++ [v]) []

/-- The entries of the different values of a list, if their hashes are the same in every
run. -/
def entries? (vs : List Value) : Option (List Entry) :=
  (hashAll? (distinct vs)).map fun hashes => hashes.zip (distinct vs)

/-- The different values of a list in the order in which a set lists them. -/
def setOrder (vs : List Value) : List Value :=
  match entries? vs with
  | some es => (Table.ofEntries es).entries.map Prod.snd
  | Option.none => distinct vs

/-- The different values of two lists in the order in which the union of two sets lists
them. -/
def unionOrder (vs ws : List Value) : List Value :=
  match entries? vs, entries? ws with
  | some es, some fs => ((Table.ofEntries es).union (Table.ofEntries fs)).entries.map Prod.snd
  | _, _ => distinct (vs ++ ws)

/-- The set of the values of a list. -/
def ofSet (vs : List Value) : Value := .set (setOrder vs)

end Value

end Furthest
