import Mathlib.Algebra.Group.Int.Defs
import Mathlib.Algebra.Group.Nat.Defs
import Mathlib.Data.List.Basic

/-!
# Reading values off the front of bytes

A reader takes a value off the front of a list of bytes and leaves the rest, or
fails.  Nested formats are read with fuel for the depth of nesting.  A reader
looks only at what it takes: a successful reading stays the same when other
bytes follow, and the bytes taken are fuel enough for it.  This is kept when
readers are put together.

Numbers are read and written most significant byte first.
-/

namespace TurbocableServer.Foundations

abbrev Reader (α : Type) : Type :=
  List UInt8 → Option (α × List UInt8)

namespace Reader

variable {α β : Type}

def succeed (value : α) : Reader α :=
  fun bytes => some (value, bytes)

def fail : Reader α :=
  fun _ => none

def andThen (first : Reader α) (next : α → Reader β) : Reader β :=
  fun bytes => (first bytes).bind (fun (value, rest) => next value rest)

def map (change : α → β) (reader : Reader α) : Reader β :=
  reader.andThen (fun value => succeed (change value))

def byte : Reader UInt8
  | [] => none
  | head :: tail => some (head, tail)

def take (count : Nat) : Reader (List UInt8) :=
  fun bytes =>
    if count ≤ bytes.length then
      some (bytes.take count, bytes.drop count)
    else
      none

/-- One reading after the other. -/
def times (reader : Reader α) : Nat → Reader (List α)
  | 0 => succeed []
  | count + 1 =>
      reader.andThen (fun head =>
        (reader.times count).map (fun tail => head :: tail))

def pair (reader : Reader α) : Reader (α × α) :=
  reader.andThen (fun left => reader.map (fun right => (left, right)))

/-! ## Numbers -/

/-- The lowest `width` bytes of a number. -/
def toBytes : Nat → Nat → List UInt8
  | 0, _ => []
  | width + 1, number => toBytes width (number / 256) ++ [UInt8.ofNat number]

def ofBytes (bytes : List UInt8) : Nat :=
  bytes.foldl (fun number byte => number * 256 + byte.toNat) 0

def bigEndian (width : Nat) : Reader Nat :=
  (take width).map ofBytes

theorem length_toBytes (width number : Nat) :
    (toBytes width number).length = width := by
  induction width generalizing number with
  | zero => rfl
  | succ width ih =>
      rw [toBytes, List.length_append, ih]
      rfl

theorem ofBytes_toBytes {width number : Nat} (fits : number < 256 ^ width) :
    ofBytes (toBytes width number) = number := by
  induction width generalizing number with
  | zero =>
      have isZero : number = 0 := by
        rw [Nat.pow_zero] at fits
        omega
      rw [isZero]
      rfl
  | succ width ih =>
      have high : number / 256 < 256 ^ width := by
        rw [Nat.pow_succ] at fits
        exact Nat.div_lt_of_lt_mul (by rw [Nat.mul_comm]; exact fits)
      have lastByte : (UInt8.ofNat number).toNat = number % 256 := by
        simp
      have upper := ih high
      rw [ofBytes] at upper
      rw [ofBytes, toBytes, List.foldl_append, upper]
      simp only [List.foldl_cons, List.foldl_nil, lastByte]
      omega

/-! ## Reading what was written -/

theorem take_append (taken rest : List UInt8) :
    take taken.length (taken ++ rest) = some (taken, rest) := by
  simp [take]

theorem bigEndian_toBytes {width number : Nat} (fits : number < 256 ^ width)
    (rest : List UInt8) :
    bigEndian width (toBytes width number ++ rest) = some (number, rest) := by
  have taken := take_append (toBytes width number) rest
  rw [length_toBytes] at taken
  simp only [bigEndian, map, andThen, taken, Option.bind_some, succeed]
  rw [ofBytes_toBytes fits]

/-! ## Readers look only at what they take -/

/-- The reading at this fuel takes a front of the bytes, and takes it off any
bytes and with any fuel that is at least as large as the front is long. -/
def FrontOnly (reader : Nat → Reader α) (fuel : Nat) : Prop :=
  ∀ bytes value rest, reader fuel bytes = some (value, rest) →
    ∃ front, bytes = front ++ rest ∧
      ∀ enough other, front.length ≤ enough →
        reader enough (front ++ other) = some (value, other)

variable {fuel : Nat}

theorem frontOnly_succeed (value : α) :
    FrontOnly (fun _ => succeed value) fuel := by
  intro bytes result rest isRead
  cases isRead
  exact ⟨[], rfl, fun _ _ _ => rfl⟩

theorem frontOnly_fail : FrontOnly (fun _ => fail (α := α)) fuel := by
  intro bytes result rest isRead
  cases isRead

theorem frontOnly_byte : FrontOnly (fun _ => byte) fuel := by
  intro bytes value rest isRead
  cases bytes with
  | nil => cases isRead
  | cons head tail =>
      cases isRead
      exact ⟨[value], rfl, fun _ _ _ => rfl⟩

theorem frontOnly_take (count : Nat) :
    FrontOnly (fun _ => take count) fuel := by
  intro bytes value rest isRead
  simp only [take] at isRead
  split at isRead
  · rename_i available
    cases isRead
    refine ⟨bytes.take count, (List.take_append_drop count bytes).symm, ?_⟩
    intro enough other _
    have length : (bytes.take count).length = count := by
      rw [List.length_take]
      omega
    have again := take_append (bytes.take count) other
    rw [length] at again
    exact again
  · cases isRead

theorem FrontOnly.andThen {first : Nat → Reader α}
    {next : α → Nat → Reader β} (start : FrontOnly first fuel)
    (later : ∀ value, FrontOnly (next value) fuel) :
    FrontOnly (fun fuel => (first fuel).andThen (fun value => next value fuel))
      fuel := by
  intro bytes result rest isRead
  obtain ⟨⟨value, middle⟩, isFirst, isNext⟩ :=
    Option.bind_eq_some_iff.mp isRead
  obtain ⟨front, isFront, readsFront⟩ := start bytes value middle isFirst
  obtain ⟨after, isAfter, readsAfter⟩ := later value middle result rest isNext
  refine ⟨front ++ after, ?_, ?_⟩
  · rw [isFront, isAfter, List.append_assoc]
  · intro enough other long
    rw [List.length_append] at long
    have readFirst :=
      readsFront enough (after ++ other) (by omega)
    have readNext := readsAfter enough other (by omega)
    simp only [Reader.andThen, List.append_assoc, readFirst, Option.bind_some,
      readNext]

theorem FrontOnly.map {reader : Nat → Reader α}
    (isFrontOnly : FrontOnly reader fuel) (change : α → β) :
    FrontOnly (fun fuel => (reader fuel).map change) fuel :=
  isFrontOnly.andThen (fun value => frontOnly_succeed (change value))

theorem frontOnly_bigEndian (width : Nat) :
    FrontOnly (fun _ => bigEndian width) fuel :=
  (frontOnly_take width).map ofBytes

theorem FrontOnly.times {reader : Nat → Reader α}
    (isFrontOnly : FrontOnly reader fuel) (count : Nat) :
    FrontOnly (fun fuel => (reader fuel).times count) fuel := by
  induction count with
  | zero => exact frontOnly_succeed []
  | succ count ih =>
      exact isFrontOnly.andThen
        (fun head => ih.map (fun tail => head :: tail))

theorem FrontOnly.pair {reader : Nat → Reader α}
    (isFrontOnly : FrontOnly reader fuel) :
    FrontOnly (fun fuel => (reader fuel).pair) fuel :=
  isFrontOnly.andThen (fun left => isFrontOnly.map (fun right => (left, right)))

end Reader

end TurbocableServer.Foundations
