import Furthest.Value.Order

/-!
# Replies

Running a parser at an offset gives a reply: a success with the index right after the
matched text and a value, or a failure. Both carry a record of the furthest failure seen on
the way, which for a success is that of an attempt that was tried and discarded.

Records form a join: of two records the one with the greater offset wins, and at equal
offsets the labels are united. Labels are texts as a rule, and the union of texts is always
defined. Any other value may be a label too; such labels can be united if they can be
elements of a set and have an order.

## Main definitions

* `Record`: an offset and the labels of what was expected there.
* `Record.join`: the record of two records.
* `Reply`: success or failure.
* `Reply.onto`: a reply that takes an earlier reply's record into account.
* `Reply.after`: the success that follows an earlier reply.

## Main results

* `Record.unionExpected_map_text`: the union of texts is defined.
* `Reply.merge_matched`: a success without failures can follow every reply.
-/

namespace Furthest

/-- What was expected. -/
abbrev Label := Value

/-- The furthest failure seen so far: its offset, and what was expected there. The offset is
`-1` if nothing has failed. -/
structure Record where
  /-- The offset of the failure. -/
  furthest : Int
  /-- The labels of what was expected. -/
  expected : List Label

namespace Record

/-- The record of a run in which nothing has failed. -/
def clean : Record := ⟨-1, []⟩

/-- The record of a failure with one label. -/
def single (pos : Int) (label : Label) : Record := ⟨pos, [label]⟩

/-! ### The union of labels -/

/-- The union of two lists of texts, sorted and without repetitions. If one side is empty
the other is returned as it is. -/
def unionTexts (xs ys : List Text) : List Text :=
  if xs.isEmpty then ys
  else if ys.isEmpty then xs
  else Text.sortedDistinct (xs ++ ys)

/-- The texts of a list of labels, if all of them are texts. -/
def texts? : List Label → Option (List Text)
  | [] => some []
  | .text t :: labels => (texts? labels).map (t :: ·)
  | _ :: _ => none

/-- The union of two lists of labels, sorted and without repetitions. If one side is empty
the other is returned as it is. -/
def unionExpected (xs ys : List Label) : Except Fault (List Label) :=
  if xs.isEmpty then .ok ys
  else if ys.isEmpty then .ok xs
  else
    match texts? (xs ++ ys) with
    | some ts => .ok ((Text.sortedDistinct ts).map .text)
    | none => Value.sortedUnion xs ys

/-- A list of texts consists of these texts. -/
theorem texts?_map_text (ts : List Text) : texts? (ts.map .text) = some ts := by
  induction ts with
  | nil => rfl
  | cons t ts ih => simp [texts?, ih]

/-- The union of texts is defined. -/
theorem unionExpected_map_text (xs ys : List Text) :
    unionExpected (xs.map .text) (ys.map .text) = .ok ((unionTexts xs ys).map .text) := by
  cases xs with
  | nil => rfl
  | cons x xs =>
    cases ys with
    | nil => rfl
    | cons y ys =>
      simp only [unionExpected, unionTexts, List.isEmpty_map, List.isEmpty_cons,
        Bool.false_eq_true, if_false, ← List.map_append, texts?_map_text]

/-! ### The join of records -/

/-- The record of two records: the one with the greater offset, and at equal offsets the
union of the labels of both. -/
def join (r last : Record) : Except Fault Record :=
  if last.furthest < r.furthest then .ok r
  else if r.furthest = last.furthest then
    (unionExpected r.expected last.expected).map (⟨last.furthest, ·⟩)
  else .ok last

/-- What a record becomes when it is joined to the record in which nothing has failed:
failures before offset `-1` are dropped. -/
def carried (r : Record) : Record := if r.furthest < -1 then clean else r

/-- The record in which nothing has failed can be joined to every record. -/
theorem join_clean (r : Record) : clean.join r = .ok r.carried := by
  obtain ⟨furthest, expected⟩ := r
  by_cases below : furthest < -1
  · simp [join, carried, clean, below]
  · by_cases start : -1 = furthest
    · subst start; rfl
    · simp [join, carried, clean, below, start]

end Record

/-- What came of running a parser at an offset. -/
inductive Reply where
  /-- The parser matched. -/
  | success (index : Int) (value : Value) (record : Record)
  /-- The parser did not match. -/
  | failure (record : Record)

namespace Reply

/-- The furthest failure seen while the reply was produced. -/
def record : Reply → Record
  | success _ _ r => r
  | failure r => r

/-- The same reply with another record. -/
def withRecord : Reply → Record → Reply
  | success index value _, r => success index value r
  | failure _, r => failure r

@[simp] theorem record_withRecord (r : Reply) (j : Record) : (r.withRecord j).record = j := by
  cases r <;> rfl

@[simp] theorem withRecord_withRecord (r : Reply) (j k : Record) :
    (r.withRecord j).withRecord k = r.withRecord k := by
  cases r <;> rfl

@[simp] theorem withRecord_record (r : Reply) : r.withRecord r.record = r := by
  cases r <;> rfl

/-- Whether the reply is a success. -/
def isSuccess : Reply → Bool
  | success .. => true
  | failure _ => false

/-- A success that has seen no failure. -/
def matched (index : Int) (value : Value) : Reply := success index value Record.clean

/-- A failure with one label. -/
def mismatch (pos : Int) (label : Label) : Reply := failure (Record.single pos label)

/-- A reply that takes the record of an earlier one into account. The outcome, the index and
the value are its own. -/
def onto (reply last : Reply) : Except Fault Reply :=
  (reply.record.join last.record).map reply.withRecord

/-- A reply that takes the record of an earlier one into account, if there is an earlier
one. -/
def merge (reply : Reply) (last : Option Reply) : Except Fault Reply :=
  match last with
  | none => .ok reply
  | some last => reply.onto last

/-- A reply is merged onto another one as their records are joined. -/
theorem merge_of_join {reply last : Reply} {j : Record}
    (h : reply.record.join last.record = .ok j) :
    reply.merge (some last) = .ok (reply.withRecord j) := by
  rw [merge, onto, h]
  rfl

/-- The success that follows an earlier reply, if there is one, without failures of its
own. -/
def after (last : Option Reply) (index : Int) (value : Value) : Reply :=
  success index value (match last with
    | none => Record.clean
    | some last => last.record.carried)

/-- A success without failures can follow every reply. -/
theorem merge_matched (index : Int) (value : Value) (last : Option Reply) :
    (matched index value).merge last = .ok (after last index value) := by
  cases last with
  | none => rfl
  | some last => simp only [merge, onto, matched, record, Record.join_clean]; rfl

/-- The printed form of a reply. -/
def render : Reply → Text
  | success index value _ =>
    "<Success " ++ Text.ofInt index ++ " \x7b" ++ value.render ++ "\x7d>"
  | failure r =>
    "<Failure " ++ Text.ofInt r.furthest ++ " " ++ (Value.list r.expected).render ++ ">"

/-- The replies of a run of steps, each merged with the one before it. -/
def mergeAll (last : Option Reply) : List Reply → Except Fault (List Reply)
  | [] => .ok []
  | r :: rs => do
    let merged ← merge r last
    return merged :: (← mergeAll (some merged) rs)

end Reply

end Furthest
