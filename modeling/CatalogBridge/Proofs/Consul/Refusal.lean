import CatalogBridge.Consul.Answer
import Mathlib.Logic.Relation

/-!
# Reading the body of a refusal

The body of a refusal comes in chunks of any size, and no more of it is asked for than
a message quotes.

* `Chunks.Turn` is one turn of the reading: a chunk is asked for while there is room,
  and what finds no room is dropped.
* `turns_readError` says that `readError` takes such turns, and `Turns.readError_eq` that
  no turn changes how it ends.
* `Turns.length_le` is the invariant of the turns: never more is held than the limit.
* `errorText_of_chunks` puts these together. What is read is a beginning of what is
  delivered, wherever the chunks were cut.
-/

namespace CatalogBridge.Chunks

/-- A body being read: the octets that are held, and the chunks not asked for so far. -/
abbrev Reading := List UInt8 × Chunks

/-- While there is room, the next chunk is asked for, and as much of it is kept as there is room
for. -/
inductive Turn : Reading → Reading → Prop where
  | chunk {held octets : List UInt8} {rest : Chunks} (room : held.length < errorLimit) :
      Turn (held, .chunk octets rest) (held ++ octets.take (errorLimit - held.length), rest)

/-- Any number of turns. -/
abbrev Turns : Reading → Reading → Prop := Relation.ReflTransGen Turn

theorem readError_of_room {held : List UInt8} (room : held.length < errorLimit)
    (octets : List UInt8) (rest : Chunks) :
    readError held (.chunk octets rest)
      = readError (held ++ octets.take (errorLimit - held.length)) rest := by
  rw [readError, if_pos room]

/-- Once the limit is reached nothing more is asked for, whatever might come. -/
theorem readError_of_full {held : List UInt8} (full : errorLimit ≤ held.length) (rest : Chunks) :
    readError held rest = (held, rest) := by
  cases rest with
  | finished => rfl
  | broken => rfl
  | chunk octets rest => rw [readError, if_neg (Nat.not_lt.2 full)]

/-- A turn leads to the same end. -/
theorem Turn.readError_eq {reading next : Reading} (h : Turn reading next) :
    readError reading.1 reading.2 = readError next.1 next.2 := by
  cases h with
  | chunk room => exact readError_of_room room _ _

theorem Turns.readError_eq {reading later : Reading} (h : Turns reading later) :
    readError reading.1 reading.2 = readError later.1 later.2 := by
  induction h with
  | refl => rfl
  | tail _ hlast ih => exact ih.trans hlast.readError_eq

/-- Reading is taking turns. -/
theorem turns_readError (held : List UInt8) (body : Chunks) :
    Turns (held, body) (readError held body) := by
  induction body generalizing held with
  | finished => exact .refl
  | broken => exact .refl
  | chunk octets rest ih =>
    by_cases room : held.length < errorLimit
    · rw [readError_of_room room]
      exact .head (.chunk room) (ih _)
    · rw [readError_of_full (Nat.not_lt.1 room)]

/-- After a turn no more is held than the limit. -/
theorem Turn.length_le {reading next : Reading} (h : Turn reading next) :
    next.1.length ≤ errorLimit := by
  cases h with
  | chunk room =>
    rw [List.length_append, List.length_take]
    omega

/-- Never more is held than the limit, so the room that is left is a difference of lengths. -/
theorem Turns.length_le {body : Chunks} {reading : Reading} (h : Turns ([], body) reading) :
    reading.1.length ≤ errorLimit := by
  cases h with
  | refl => exact Nat.zero_le _
  | tail _ hlast => exact hlast.length_le

/-- Bodies that deliver the same octets are read as the same octets. -/
theorem errorOctets_eq_of_delivered_eq {body other : Chunks}
    (h : other.delivered = body.delivered) : other.errorOctets = body.errorOctets := by
  rw [errorOctets_eq, errorOctets_eq, h]

/-- What is read of the body of a refusal, in whatever chunks it comes and whether it ends or
breaks off.

The text is that of the first 1024 octets, or of all that are delivered before the end if they are
fewer. It is read in turns. After each of them, no more than 1024 octets are held, and if so many
are held they are what is read, and what comes next is not asked for, whatever it is. Another body
that delivers the same octets gives the same text. -/
theorem errorText_of_chunks (body : Chunks) :
    body.errorText = String.ofList
        (Utf8.decode (body.delivered.take (min 1024 body.delivered.length))) ∧
      Turns ([], body) (readError [] body) ∧
      (∀ held rest, Turns ([], body) (held, rest) → held.length ≤ 1024 ∧
        (held.length = 1024 → body.errorOctets = held ∧
          ∀ next, readError held next = (held, next))) ∧
      ∀ other : Chunks, other.delivered = body.delivered → other.errorText = body.errorText := by
  refine ⟨?_, turns_readError [] body, fun held rest hturns => ⟨hturns.length_le, ?_⟩, ?_⟩
  · rw [errorText, errorOctets_eq, List.take_eq_take_min]
    rfl
  · intro hlength
    have hfull : errorLimit ≤ held.length := Nat.le_of_eq hlength.symm
    refine ⟨?_, readError_of_full hfull⟩
    have hend : readError [] body = readError held rest := hturns.readError_eq
    rw [errorOctets, hend, readError_of_full hfull]
  · intro other hother
    rw [errorText, errorText, errorOctets_eq_of_delivered_eq hother]

-- The limit falls between the two octets of a character, and the connection breaks behind them.
example : errorText (.chunk (List.replicate 1023 97) (.chunk [] (.chunk [0xC3, 0xA9] .broken)))
    = String.ofList (List.replicate 1023 'a' ++ [Utf8.replacement]) := by
  decide +kernel

end CatalogBridge.Chunks
