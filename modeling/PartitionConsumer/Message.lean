import PartitionConsumer.Time
/-!
Messages of a partition, as a receiver hands them over in batches.
-/
namespace PartitionConsumer

/-- Application properties: one value to a key, in the order the keys were first set. -/
abbrev Properties := List (String × String)

namespace Properties

def insert : Properties → String → String → Properties
  | [], k, v => [(k, v)]
  | (k', v') :: rest, k, v => if k' = k then (k, v) :: rest else (k', v') :: insert rest k v

def find? (ps : Properties) (k : String) : Option String :=
  (List.find? (fun p => p.1 == k) ps).map (·.2)

/-- Equality as maps: same number of keys, and each key of the first has the same value in the
second. -/
def same (a b : Properties) : Bool :=
  a.length == b.length && a.all fun (k, v) => find? b k == some v

theorem find?_insert (ps : Properties) (k v : String) : find? (insert ps k v) k = some v := by
  induction ps with
  | nil => simp [insert, find?]
  | cons p rest ih =>
    obtain ⟨k', v'⟩ := p
    by_cases h : k' = k
    · simp [insert, h, find?]
    · simpa [insert, h, find?] using ih

end Properties

structure Message where
  body : List UInt8
  sequence : Int
  offset : String
  enqueued : Stamp := ⟨0⟩
  properties : Properties := []
  deriving DecidableEq, Repr, Inhabited

namespace Message

def same (a b : Message) : Bool :=
  a.body == b.body && a.sequence == b.sequence && a.offset == b.offset
    && a.enqueued == b.enqueued && a.properties.same b.properties

/-- A sample message numbered `n`: its body names the number and its offset is a hundred times it. -/
def numbered (n : Int) : Message where
  body := ("body-" ++ toString n).toUTF8.toList
  sequence := n
  offset := toString (n * 100)

end Message

/-- A batch, if the receive window brought one. -/
abbrev Batch := List Message

end PartitionConsumer
