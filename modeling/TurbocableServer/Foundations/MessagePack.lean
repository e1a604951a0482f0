import Mathlib.Data.List.Basic
import TurbocableServer.Foundations.ByteReader

/-!
# The MessagePack format

Values, their shortest encoding, and the reader of one value.  The first byte of
a value is its marker: it stands for a small value itself, or says what follows
and how its length is given.  The reader reads back what was encoded, whatever
follows it, and what it takes off the front of some bytes is one complete value.
-/

namespace TurbocableServer.Foundations.MessagePack

open Reader

inductive Value where
  | nil
  | bool (value : Bool)
  | integer (value : Int)
  | float32 (bits : UInt32)
  | float64 (bits : UInt64)
  | str (bytes : List UInt8)
  | bin (bytes : List UInt8)
  | array (items : List Value)
  | map (entries : List (Value × Value))
  | ext (kind : UInt8) (data : List UInt8)

/-! ## Encoding -/

/-- The first of the markers whose width holds the number, and the number. -/
def sized : List (UInt8 × Nat) → Nat → Option (List UInt8)
  | [], _ => none
  | (marker, width) :: wider, number =>
      if number < 256 ^ width then
        some (marker :: toBytes width number)
      else
        sized wider number

/-- A number below the limit is part of the marker. -/
def fixedOrSized (limit base : Nat) (sizes : List (UInt8 × Nat))
    (number : Nat) : Option (List UInt8) :=
  if number < limit then
    some [UInt8.ofNat (base + number)]
  else
    sized sizes number

def unsignedSizes : List (UInt8 × Nat) :=
  [(0xcc, 1), (0xcd, 2), (0xce, 4), (0xcf, 8)]

/-- A negative number, `magnitude + 1` below zero, in two's complement. -/
def negative : List (UInt8 × Nat) → Nat → Option (List UInt8)
  | [], _ => none
  | (marker, width) :: wider, magnitude =>
      if magnitude < 256 ^ width / 2 then
        some (marker :: toBytes width (256 ^ width - 1 - magnitude))
      else
        negative wider magnitude

def signedSizes : List (UInt8 × Nat) :=
  [(0xd0, 1), (0xd1, 2), (0xd2, 4), (0xd3, 8)]

def integerBytes : Int → Option (List UInt8)
  | .ofNat number => fixedOrSized 128 0 unsignedSizes number
  | .negSucc magnitude =>
      if magnitude < 32 then
        some [UInt8.ofNat (255 - magnitude)]
      else
        negative signedSizes magnitude

def strHeader : Nat → Option (List UInt8) :=
  fixedOrSized 32 0xa0 [(0xd9, 1), (0xda, 2), (0xdb, 4)]

def binHeader : Nat → Option (List UInt8) :=
  sized [(0xc4, 1), (0xc5, 2), (0xc6, 4)]

def arrayHeader : Nat → Option (List UInt8) :=
  fixedOrSized 16 0x90 [(0xdc, 2), (0xdd, 4)]

def mapHeader : Nat → Option (List UInt8) :=
  fixedOrSized 16 0x80 [(0xde, 2), (0xdf, 4)]

def extHeader : Nat → Option (List UInt8)
  | 1 => some [0xd4]
  | 2 => some [0xd5]
  | 4 => some [0xd6]
  | 8 => some [0xd7]
  | 16 => some [0xd8]
  | length => sized [(0xc7, 1), (0xc8, 2), (0xc9, 4)] length

mutual

/-- The shortest encoding; `none` for what the format has no room for. -/
def encode : Value → Option (List UInt8)
  | .nil => some [0xc0]
  | .bool false => some [0xc2]
  | .bool true => some [0xc3]
  | .integer value => integerBytes value
  | .float32 bits => some (0xca :: toBytes 4 bits.toNat)
  | .float64 bits => some (0xcb :: toBytes 8 bits.toNat)
  | .str bytes => (strHeader bytes.length).map (fun header => header ++ bytes)
  | .bin bytes => (binHeader bytes.length).map (fun header => header ++ bytes)
  | .array items =>
      (arrayHeader items.length).bind (fun header =>
        (encodeItems items).map (fun body => header ++ body))
  | .map entries =>
      (mapHeader entries.length).bind (fun header =>
        (encodeEntries entries).map (fun body => header ++ body))
  | .ext kind data =>
      (extHeader data.length).map (fun header => header ++ kind :: data)

def encodeItems : List Value → Option (List UInt8)
  | [] => some []
  | head :: tail =>
      (encode head).bind (fun bytes =>
        (encodeItems tail).map (fun rest => bytes ++ rest))

def encodeEntries : List (Value × Value) → Option (List UInt8)
  | [] => some []
  | (key, value) :: tail =>
      (encode key).bind (fun keyBytes =>
        (encode value).bind (fun valueBytes =>
          (encodeEntries tail).map
            (fun rest => keyBytes ++ (valueBytes ++ rest))))

end

/-! ## Reading -/

/-- Where a length is given: in the marker, or in the bytes after it. -/
inductive Length where
  | fixed (length : Nat)
  | sized (width : Nat)

def Length.read : Length → Reader Nat
  | .fixed length => succeed length
  | .sized width => bigEndian width

inductive Marker where
  | immediate (value : Value)
  | unsigned (width : Nat)
  | signed (width : Nat)
  | float32
  | float64
  | str (length : Length)
  | bin (length : Length)
  | array (length : Length)
  | map (length : Length)
  | ext (length : Length)
  | reserved

def Marker.ofCode : Nat → Marker
  | 0xc0 => .immediate .nil
  | 0xc2 => .immediate (.bool false)
  | 0xc3 => .immediate (.bool true)
  | 0xc4 => .bin (.sized 1)
  | 0xc5 => .bin (.sized 2)
  | 0xc6 => .bin (.sized 4)
  | 0xc7 => .ext (.sized 1)
  | 0xc8 => .ext (.sized 2)
  | 0xc9 => .ext (.sized 4)
  | 0xca => .float32
  | 0xcb => .float64
  | 0xcc => .unsigned 1
  | 0xcd => .unsigned 2
  | 0xce => .unsigned 4
  | 0xcf => .unsigned 8
  | 0xd0 => .signed 1
  | 0xd1 => .signed 2
  | 0xd2 => .signed 4
  | 0xd3 => .signed 8
  | 0xd4 => .ext (.fixed 1)
  | 0xd5 => .ext (.fixed 2)
  | 0xd6 => .ext (.fixed 4)
  | 0xd7 => .ext (.fixed 8)
  | 0xd8 => .ext (.fixed 16)
  | 0xd9 => .str (.sized 1)
  | 0xda => .str (.sized 2)
  | 0xdb => .str (.sized 4)
  | 0xdc => .array (.sized 2)
  | 0xdd => .array (.sized 4)
  | 0xde => .map (.sized 2)
  | 0xdf => .map (.sized 4)
  | _ => .reserved

def Marker.ofByte (byte : UInt8) : Marker :=
  if byte.toNat < 0x80 then
    .immediate (.integer byte.toNat)
  else if byte.toNat < 0x90 then
    .map (.fixed (byte.toNat - 0x80))
  else if byte.toNat < 0xa0 then
    .array (.fixed (byte.toNat - 0x90))
  else if byte.toNat < 0xc0 then
    .str (.fixed (byte.toNat - 0xa0))
  else if byte.toNat < 0xe0 then
    Marker.ofCode byte.toNat
  else
    .immediate (.integer (byte.toNat - 256))

/-- The number a two's complement stands for. -/
def signedOf (width number : Nat) : Int :=
  if number < 256 ^ width / 2 then number else number - 256 ^ width

/-- What follows the marker; the values inside are read by `inner`. -/
def Marker.read (inner : Reader Value) : Marker → Reader Value
  | .immediate value => succeed value
  | .unsigned width =>
      (bigEndian width).map (fun number : Nat => .integer number)
  | .signed width =>
      (bigEndian width).map (fun number => .integer (signedOf width number))
  | .float32 => (bigEndian 4).map (fun bits => .float32 (UInt32.ofNat bits))
  | .float64 => (bigEndian 8).map (fun bits => .float64 (UInt64.ofNat bits))
  | .str length =>
      length.read.andThen (fun count => (Reader.take count).map .str)
  | .bin length =>
      length.read.andThen (fun count => (Reader.take count).map .bin)
  | .array length =>
      length.read.andThen (fun count => (inner.times count).map .array)
  | .map length =>
      length.read.andThen (fun count => (inner.pair.times count).map .map)
  | .ext length =>
      length.read.andThen (fun count =>
        byte.andThen (fun kind => (Reader.take count).map (.ext kind)))
  | .reserved => fail

/-- One value, nested at most as deep as the fuel. -/
def read : Nat → Reader Value
  | 0 => fail
  | fuel + 1 =>
      byte.andThen (fun marker => (Marker.ofByte marker).read (read fuel))

/-- The first value of some bytes, and the bytes after it. -/
def first (bytes : List UInt8) : Option (Value × List UInt8) :=
  read bytes.length bytes

/-- The bytes are one value, with none left over. -/
def Complete (bytes : List UInt8) (value : Value) : Prop :=
  first bytes = some (value, [])

/-! ## What is taken is one value -/

theorem frontOnly_length (length : Length) {fuel : Nat} :
    FrontOnly (fun _ => length.read) fuel := by
  cases length with
  | fixed length => exact frontOnly_succeed length
  | sized width => exact frontOnly_bigEndian width

theorem frontOnly_marker {inner : Nat → Reader Value} {fuel : Nat}
    (isFrontOnly : FrontOnly inner fuel) (marker : Marker) :
    FrontOnly (fun fuel => marker.read (inner fuel)) fuel := by
  cases marker with
  | immediate value => exact frontOnly_succeed value
  | unsigned width | signed width => exact (frontOnly_bigEndian width).map _
  | float32 => exact (frontOnly_bigEndian 4).map _
  | float64 => exact (frontOnly_bigEndian 8).map _
  | str length =>
      exact (frontOnly_length length).andThen
        (fun count => (frontOnly_take count).map Value.str)
  | bin length =>
      exact (frontOnly_length length).andThen
        (fun count => (frontOnly_take count).map Value.bin)
  | array length =>
      exact (frontOnly_length length).andThen
        (fun count => (isFrontOnly.times count).map Value.array)
  | map length =>
      exact (frontOnly_length length).andThen
        (fun count => (isFrontOnly.pair.times count).map Value.map)
  | ext length =>
      exact (frontOnly_length length).andThen
        (fun count => frontOnly_byte.andThen
          (fun kind => (frontOnly_take count).map (Value.ext kind)))
  | reserved => exact frontOnly_fail

theorem frontOnly_read (fuel : Nat) : FrontOnly read fuel := by
  induction fuel with
  | zero =>
      intro bytes value rest isRead
      cases isRead
  | succ fuel ih =>
      intro bytes value rest isRead
      cases bytes with
      | nil => cases isRead
      | cons marker bytes =>
          have inside :
              (Marker.ofByte marker).read (read fuel) bytes =
                some (value, rest) :=
            isRead
          obtain ⟨front, isFront, again⟩ :=
            frontOnly_marker ih (Marker.ofByte marker) bytes
              value rest inside
          refine ⟨marker :: front, by rw [isFront, List.cons_append], ?_⟩
          intro enough other long
          -- the marker pays for the level of nesting it opens
          cases enough with
          | zero =>
              rw [List.length_cons] at long
              omega
          | succ enough =>
              rw [List.length_cons] at long
              exact again enough other (by omega)

/-- The first value of some bytes is a front of them that is one value. -/
theorem first_eq_some_iff {bytes rest : List UInt8} {value : Value} :
    first bytes = some (value, rest) ↔
      ∃ front, bytes = front ++ rest ∧ Complete front value := by
  constructor
  · intro isFirst
    obtain ⟨front, isFront, again⟩ :=
      frontOnly_read bytes.length bytes value rest isFirst
    refine ⟨front, isFront, ?_⟩
    have alone := again front.length [] (Nat.le_refl _)
    rw [List.append_nil] at alone
    exact alone
  · rintro ⟨front, rfl, complete⟩
    obtain ⟨taken, isTaken, again⟩ :=
      frontOnly_read front.length front value [] complete
    rw [List.append_nil] at isTaken
    subst isTaken
    apply again
    rw [List.length_append]
    omega

/-! ## Markers of an encoding -/

theorem sized_eq_some {sizes : List (UInt8 × Nat)} {number : Nat}
    {bytes : List UInt8} (isSized : sized sizes number = some bytes) :
    ∃ marker width, (marker, width) ∈ sizes ∧ number < 256 ^ width ∧
      bytes = marker :: toBytes width number := by
  induction sizes with
  | nil => cases isSized
  | cons size wider ih =>
      obtain ⟨marker, width⟩ := size
      rw [sized] at isSized
      split at isSized
      · rename_i fits
        exact ⟨marker, width, List.mem_cons_self, fits,
          (Option.some.inj isSized).symm⟩
      · obtain ⟨found, foundWidth, member, fits, shape⟩ := ih isSized
        exact ⟨found, foundWidth, List.mem_cons_of_mem _ member, fits, shape⟩

theorem negative_eq_some {sizes : List (UInt8 × Nat)} {magnitude : Nat}
    {bytes : List UInt8} (isNegative : negative sizes magnitude = some bytes) :
    ∃ marker width, (marker, width) ∈ sizes ∧ magnitude < 256 ^ width / 2 ∧
      bytes = marker :: toBytes width (256 ^ width - 1 - magnitude) := by
  induction sizes with
  | nil => cases isNegative
  | cons size wider ih =>
      obtain ⟨marker, width⟩ := size
      rw [negative] at isNegative
      split at isNegative
      · rename_i fits
        exact ⟨marker, width, List.mem_cons_self, fits,
          (Option.some.inj isNegative).symm⟩
      · obtain ⟨found, foundWidth, member, fits, shape⟩ := ih isNegative
        exact ⟨found, foundWidth, List.mem_cons_of_mem _ member, fits, shape⟩

/-- The bytes are a marker of the kind and the given length. -/
def Heads (header : List UInt8) (kind : Length → Marker) (count : Nat) :
    Prop :=
  ∃ marker length tail,
    header = marker :: tail ∧ Marker.ofByte marker = kind length ∧
      ∀ rest, length.read (tail ++ rest) = some (count, rest)

theorem heads_sized {sizes : List (UInt8 × Nat)} {kind : Length → Marker}
    (isKind : ∀ size ∈ sizes, Marker.ofByte size.1 = kind (.sized size.2))
    {count : Nat} {header : List UInt8}
    (isSized : sized sizes count = some header) : Heads header kind count := by
  obtain ⟨marker, width, member, fits, rfl⟩ := sized_eq_some isSized
  exact ⟨marker, .sized width, toBytes width count, rfl,
    isKind (marker, width) member, bigEndian_toBytes fits⟩

theorem heads_fixedOrSized {sizes : List (UInt8 × Nat)}
    {kind : Length → Marker} {limit base : Nat}
    (isFixed : ∀ count, count < limit →
      Marker.ofByte (UInt8.ofNat (base + count)) = kind (.fixed count))
    (isKind : ∀ size ∈ sizes, Marker.ofByte size.1 = kind (.sized size.2))
    {count : Nat} {header : List UInt8}
    (isHeader : fixedOrSized limit base sizes count = some header) :
    Heads header kind count := by
  rw [fixedOrSized] at isHeader
  split at isHeader
  · rename_i small
    obtain rfl := Option.some.inj isHeader
    exact ⟨UInt8.ofNat (base + count), .fixed count, [], rfl,
      isFixed count small, fun _ => rfl⟩
  · exact heads_sized isKind isHeader

theorem toNat_ofNat_of_lt {code : Nat} (small : code < 256) :
    (UInt8.ofNat code).toNat = code := by
  simp [Nat.mod_eq_of_lt small]

theorem strHeader_heads {count : Nat} {header : List UInt8}
    (isHeader : strHeader count = some header) :
    Heads header .str count := by
  refine heads_fixedOrSized ?_ ?_ isHeader
  · intro length small
    have code : (UInt8.ofNat (0xa0 + length)).toNat = 0xa0 + length :=
      toNat_ofNat_of_lt (by omega)
    rw [Marker.ofByte, code, if_neg (by omega), if_neg (by omega),
      if_neg (by omega), if_pos (by omega), Nat.add_sub_cancel_left]
  · iterate 3 refine List.forall_mem_cons.mpr ⟨rfl, ?_⟩
    exact List.forall_mem_nil _

theorem arrayHeader_heads {count : Nat} {header : List UInt8}
    (isHeader : arrayHeader count = some header) :
    Heads header .array count := by
  refine heads_fixedOrSized ?_ ?_ isHeader
  · intro length small
    have code : (UInt8.ofNat (0x90 + length)).toNat = 0x90 + length :=
      toNat_ofNat_of_lt (by omega)
    rw [Marker.ofByte, code, if_neg (by omega), if_neg (by omega),
      if_pos (by omega), Nat.add_sub_cancel_left]
  · iterate 2 refine List.forall_mem_cons.mpr ⟨rfl, ?_⟩
    exact List.forall_mem_nil _

theorem mapHeader_heads {count : Nat} {header : List UInt8}
    (isHeader : mapHeader count = some header) :
    Heads header .map count := by
  refine heads_fixedOrSized ?_ ?_ isHeader
  · intro length small
    have code : (UInt8.ofNat (0x80 + length)).toNat = 0x80 + length :=
      toNat_ofNat_of_lt (by omega)
    rw [Marker.ofByte, code, if_neg (by omega), if_pos (by omega),
      Nat.add_sub_cancel_left]
  · iterate 2 refine List.forall_mem_cons.mpr ⟨rfl, ?_⟩
    exact List.forall_mem_nil _

theorem binHeader_heads {count : Nat} {header : List UInt8}
    (isHeader : binHeader count = some header) :
    Heads header .bin count := by
  refine heads_sized ?_ isHeader
  iterate 3 refine List.forall_mem_cons.mpr ⟨rfl, ?_⟩
  exact List.forall_mem_nil _

theorem extHeader_heads {count : Nat} {header : List UInt8}
    (isHeader : extHeader count = some header) :
    Heads header .ext count := by
  unfold extHeader at isHeader
  split at isHeader
  · obtain rfl := Option.some.inj isHeader
    exact ⟨0xd4, .fixed 1, [], rfl, rfl, fun _ => rfl⟩
  · obtain rfl := Option.some.inj isHeader
    exact ⟨0xd5, .fixed 2, [], rfl, rfl, fun _ => rfl⟩
  · obtain rfl := Option.some.inj isHeader
    exact ⟨0xd6, .fixed 4, [], rfl, rfl, fun _ => rfl⟩
  · obtain rfl := Option.some.inj isHeader
    exact ⟨0xd7, .fixed 8, [], rfl, rfl, fun _ => rfl⟩
  · obtain rfl := Option.some.inj isHeader
    exact ⟨0xd8, .fixed 16, [], rfl, rfl, fun _ => rfl⟩
  · refine heads_sized ?_ isHeader
    iterate 3 refine List.forall_mem_cons.mpr ⟨rfl, ?_⟩
    exact List.forall_mem_nil _

/-! ## Reading an encoding -/

theorem read_cons (fuel : Nat) (marker : UInt8) (bytes : List UInt8) :
    read (fuel + 1) (marker :: bytes) =
      (Marker.ofByte marker).read (read fuel) bytes :=
  rfl

/-- A number in the bytes after its marker. -/
theorem map_bigEndian_toBytes {α : Type} {width number : Nat}
    (fits : number < 256 ^ width) (change : Nat → α) (rest : List UInt8) :
    (bigEndian width).map change (toBytes width number ++ rest) =
      some (change number, rest) := by
  simp only [Reader.map, Reader.andThen, bigEndian_toBytes fits,
    Option.bind_some, succeed]

theorem map_take_append {α : Type} (taken rest : List UInt8)
    (change : List UInt8 → α) :
    (Reader.take taken.length).map change (taken ++ rest) =
      some (change taken, rest) := by
  simp only [Reader.map, Reader.andThen, take_append, Option.bind_some,
    succeed]

theorem signedOf_negative {width magnitude : Nat}
    (fits : magnitude < 256 ^ width / 2) :
    signedOf width (256 ^ width - 1 - magnitude) = Int.negSucc magnitude := by
  have above : ¬ 256 ^ width - 1 - magnitude < 256 ^ width / 2 := by
    omega
  rw [signedOf, if_neg above, Int.negSucc_eq]
  have cast : ((256 ^ width - 1 - magnitude : Nat) : Int) =
      (256 ^ width : Nat) - 1 - magnitude := by
    omega
  have power : ((256 ^ width : Nat) : Int) = 256 ^ width :=
    Int.natCast_pow 256 width
  rw [cast, power]
  omega

theorem read_unsigned {number : Nat} {bytes : List UInt8}
    (isEncoded : fixedOrSized 128 0 unsignedSizes number = some bytes)
    (fuel : Nat) (rest : List UInt8) :
    read (fuel + 1) (bytes ++ rest) = some (.integer number, rest) := by
  rw [fixedOrSized] at isEncoded
  split at isEncoded
  · rename_i small
    obtain rfl := Option.some.inj isEncoded
    have code : (UInt8.ofNat (0 + number)).toNat = number := by
      rw [Nat.zero_add]
      exact toNat_ofNat_of_lt (by omega)
    rw [List.singleton_append, read_cons, Marker.ofByte, code, if_pos small]
    rfl
  · obtain ⟨marker, width, member, fits, rfl⟩ := sized_eq_some isEncoded
    have isMarker : ∀ size ∈ unsignedSizes,
        Marker.ofByte size.1 = .unsigned size.2 := by
      iterate 4 refine List.forall_mem_cons.mpr ⟨rfl, ?_⟩
      exact List.forall_mem_nil _
    rw [List.cons_append, read_cons, isMarker (marker, width) member,
      Marker.read]
    exact map_bigEndian_toBytes fits _ rest

theorem read_negative {magnitude : Nat} {bytes : List UInt8}
    (isEncoded : integerBytes (.negSucc magnitude) = some bytes)
    (fuel : Nat) (rest : List UInt8) :
    read (fuel + 1) (bytes ++ rest) =
      some (.integer (.negSucc magnitude), rest) := by
  rw [integerBytes] at isEncoded
  split at isEncoded
  · rename_i small
    obtain rfl := Option.some.inj isEncoded
    have code : (UInt8.ofNat (255 - magnitude)).toNat = 255 - magnitude :=
      toNat_ofNat_of_lt (by omega)
    have value : ((255 - magnitude : Nat) : Int) - 256 =
        Int.negSucc magnitude := by
      omega
    rw [List.singleton_append, read_cons, Marker.ofByte, code,
      if_neg (by omega), if_neg (by omega), if_neg (by omega),
      if_neg (by omega), if_neg (by omega), value]
    rfl
  · obtain ⟨marker, width, member, fits, rfl⟩ := negative_eq_some isEncoded
    have isMarker : ∀ size ∈ signedSizes,
        Marker.ofByte size.1 = .signed size.2 := by
      iterate 4 refine List.forall_mem_cons.mpr ⟨rfl, ?_⟩
      exact List.forall_mem_nil _
    have room : 256 ^ width - 1 - magnitude < 256 ^ width := by
      omega
    rw [List.cons_append, read_cons, isMarker (marker, width) member,
      Marker.read, map_bigEndian_toBytes room, signedOf_negative fits]

theorem read_integer {value : Int} {bytes : List UInt8}
    (isEncoded : integerBytes value = some bytes) (fuel : Nat)
    (rest : List UInt8) :
    read (fuel + 1) (bytes ++ rest) = some (.integer value, rest) := by
  cases value with
  | ofNat number => exact read_unsigned isEncoded fuel rest
  | negSucc magnitude => exact read_negative isEncoded fuel rest

theorem Heads.length_pos {header : List UInt8} {kind : Length → Marker}
    {count : Nat} (heads : Heads header kind count) : 0 < header.length := by
  obtain ⟨marker, length, tail, rfl, -, -⟩ := heads
  exact Nat.zero_lt_succ _

theorem Heads.append_ne_nil {header : List UInt8} {kind : Length → Marker}
    {count : Nat} (heads : Heads header kind count) (body : List UInt8) :
    header ++ body ≠ [] :=
  List.append_ne_nil_of_left_ne_nil
    (List.length_pos_iff.mp heads.length_pos) body

/-- A header is read as its marker and its length, and what follows it is read
with that length. -/
theorem Heads.read_body {header body rest : List UInt8}
    {kind : Length → Marker} {count fuel : Nat} {value : Value}
    {contents : Nat → Reader Value} (heads : Heads header kind count)
    (isKind : ∀ length : Length,
      (kind length).read (read fuel) = length.read.andThen contents)
    (inside : contents count (body ++ rest) = some (value, rest)) :
    read (fuel + 1) (header ++ body ++ rest) = some (value, rest) := by
  obtain ⟨marker, length, tail, rfl, isMarker, isLength⟩ := heads
  rw [List.append_assoc, List.cons_append, read_cons, isMarker, isKind,
    Reader.andThen, isLength, Option.bind_some]
  exact inside

/-- An encoding begins with a marker. -/
theorem encode_ne_nil {value : Value} {bytes : List UInt8}
    (isEncoded : encode value = some bytes) : bytes ≠ [] := by
  cases value with
  | nil =>
      cases isEncoded
      simp
  | bool value =>
      cases value with
      | false | true =>
          cases isEncoded
          simp
  | integer value =>
      rw [encode] at isEncoded
      rintro rfl
      cases read_integer isEncoded 0 []
  | float32 bits | float64 bits =>
      cases isEncoded
      simp
  | str bytes =>
      rw [encode] at isEncoded
      obtain ⟨header, isHeader, rfl⟩ := Option.map_eq_some_iff.mp isEncoded
      exact (strHeader_heads isHeader).append_ne_nil bytes
  | bin bytes =>
      rw [encode] at isEncoded
      obtain ⟨header, isHeader, rfl⟩ := Option.map_eq_some_iff.mp isEncoded
      exact (binHeader_heads isHeader).append_ne_nil bytes
  | array items =>
      rw [encode] at isEncoded
      obtain ⟨header, isHeader, isBody⟩ := Option.bind_eq_some_iff.mp isEncoded
      obtain ⟨body, -, rfl⟩ := Option.map_eq_some_iff.mp isBody
      exact (arrayHeader_heads isHeader).append_ne_nil body
  | map entries =>
      rw [encode] at isEncoded
      obtain ⟨header, isHeader, isBody⟩ := Option.bind_eq_some_iff.mp isEncoded
      obtain ⟨body, -, rfl⟩ := Option.map_eq_some_iff.mp isBody
      exact (mapHeader_heads isHeader).append_ne_nil body
  | ext kind data =>
      rw [encode] at isEncoded
      obtain ⟨header, isHeader, rfl⟩ := Option.map_eq_some_iff.mp isEncoded
      exact (extHeader_heads isHeader).append_ne_nil (kind :: data)

theorem read_str {taken bytes : List UInt8}
    (isEncoded : encode (.str taken) = some bytes) (fuel : Nat)
    (rest : List UInt8) :
    read (fuel + 1) (bytes ++ rest) = some (.str taken, rest) := by
  rw [encode] at isEncoded
  obtain ⟨header, isHeader, rfl⟩ := Option.map_eq_some_iff.mp isEncoded
  refine (strHeader_heads isHeader).read_body (fun _ => by rw [Marker.read]) ?_
  exact map_take_append taken rest Value.str

theorem read_bin {taken bytes : List UInt8}
    (isEncoded : encode (.bin taken) = some bytes) (fuel : Nat)
    (rest : List UInt8) :
    read (fuel + 1) (bytes ++ rest) = some (.bin taken, rest) := by
  rw [encode] at isEncoded
  obtain ⟨header, isHeader, rfl⟩ := Option.map_eq_some_iff.mp isEncoded
  refine (binHeader_heads isHeader).read_body (fun _ => by rw [Marker.read]) ?_
  exact map_take_append taken rest Value.bin

theorem read_ext {kind : UInt8} {data bytes : List UInt8}
    (isEncoded : encode (.ext kind data) = some bytes) (fuel : Nat)
    (rest : List UInt8) :
    read (fuel + 1) (bytes ++ rest) = some (.ext kind data, rest) := by
  rw [encode] at isEncoded
  obtain ⟨header, isHeader, rfl⟩ := Option.map_eq_some_iff.mp isEncoded
  refine (extHeader_heads isHeader).read_body (fun _ => by rw [Marker.read]) ?_
  exact map_take_append data rest (Value.ext kind)

/-- What a header announces is read and wrapped. -/
theorem map_of_read {α : Type} {reader : Reader α} {bytes rest : List UInt8}
    {found : α} (isRead : reader bytes = some (found, rest))
    (change : α → Value) :
    reader.map change bytes = some (change found, rest) := by
  simp only [Reader.map, Reader.andThen, isRead, Option.bind_some, succeed]

mutual

/-- An encoding is read back, whatever follows it, with as much fuel as it has
bytes. -/
theorem read_encode :
    ∀ {value : Value} {bytes : List UInt8}, encode value = some bytes →
      ∀ {fuel : Nat} (rest : List UInt8), bytes.length ≤ fuel →
        read fuel (bytes ++ rest) = some (value, rest)
  | value, bytes, isEncoded, 0, rest, long => by
      have isNil := List.eq_nil_of_length_eq_zero (Nat.le_zero.mp long)
      exact absurd isNil (encode_ne_nil isEncoded)
  | .nil, _, isEncoded, fuel + 1, rest, _ => by
      cases isEncoded
      rfl
  | .bool false, _, isEncoded, fuel + 1, rest, _ => by
      cases isEncoded
      rfl
  | .bool true, _, isEncoded, fuel + 1, rest, _ => by
      cases isEncoded
      rfl
  | .integer value, _, isEncoded, fuel + 1, rest, _ => by
      rw [encode] at isEncoded
      exact read_integer isEncoded fuel rest
  | .float32 bits, _, isEncoded, fuel + 1, rest, _ => by
      cases isEncoded
      have fits : bits.toNat < 256 ^ 4 := bits.toNat_lt
      have isRead := map_bigEndian_toBytes fits
        (fun number => Value.float32 (UInt32.ofNat number)) rest
      rw [UInt32.ofNat_toNat] at isRead
      exact isRead
  | .float64 bits, _, isEncoded, fuel + 1, rest, _ => by
      cases isEncoded
      have fits : bits.toNat < 256 ^ 8 := bits.toNat_lt
      have isRead := map_bigEndian_toBytes fits
        (fun number => Value.float64 (UInt64.ofNat number)) rest
      rw [UInt64.ofNat_toNat] at isRead
      exact isRead
  | .str _, _, isEncoded, fuel + 1, rest, _ => read_str isEncoded fuel rest
  | .bin _, _, isEncoded, fuel + 1, rest, _ => read_bin isEncoded fuel rest
  | .array items, _, isEncoded, fuel + 1, rest, long => by
      rw [encode] at isEncoded
      obtain ⟨header, isHeader, isBody⟩ := Option.bind_eq_some_iff.mp isEncoded
      obtain ⟨body, isItems, rfl⟩ := Option.map_eq_some_iff.mp isBody
      have heads := arrayHeader_heads isHeader
      have isLong := heads.length_pos
      rw [List.length_append] at long
      have inside := times_read_encodeItems isItems rest
        (show body.length ≤ fuel by omega)
      refine heads.read_body (fun _ => by rw [Marker.read]) ?_
      exact map_of_read inside Value.array
  | .map entries, _, isEncoded, fuel + 1, rest, long => by
      rw [encode] at isEncoded
      obtain ⟨header, isHeader, isBody⟩ := Option.bind_eq_some_iff.mp isEncoded
      obtain ⟨body, isEntries, rfl⟩ := Option.map_eq_some_iff.mp isBody
      have heads := mapHeader_heads isHeader
      have isLong := heads.length_pos
      rw [List.length_append] at long
      have inside := times_read_encodeEntries isEntries rest
        (show body.length ≤ fuel by omega)
      refine heads.read_body (fun _ => by rw [Marker.read]) ?_
      exact map_of_read inside Value.map
  | .ext _ _, _, isEncoded, fuel + 1, rest, _ => read_ext isEncoded fuel rest

theorem times_read_encodeItems :
    ∀ {items : List Value} {bytes : List UInt8},
      encodeItems items = some bytes →
      ∀ {fuel : Nat} (rest : List UInt8), bytes.length ≤ fuel →
        (read fuel).times items.length (bytes ++ rest) = some (items, rest)
  | [], _, isEncoded, fuel, rest, _ => by
      rw [encodeItems] at isEncoded
      obtain rfl := Option.some.inj isEncoded
      rfl
  | head :: tail, _, isEncoded, fuel, rest, long => by
      rw [encodeItems] at isEncoded
      obtain ⟨headBytes, isHead, isTail⟩ := Option.bind_eq_some_iff.mp isEncoded
      obtain ⟨tailBytes, isItems, rfl⟩ := Option.map_eq_some_iff.mp isTail
      rw [List.length_append] at long
      have readHead := read_encode isHead (tailBytes ++ rest)
        (show headBytes.length ≤ fuel by omega)
      have readTail := times_read_encodeItems isItems rest
        (show tailBytes.length ≤ fuel by omega)
      simp only [List.length_cons, Reader.times, Reader.map, Reader.andThen,
        List.append_assoc, readHead, Option.bind_some, readTail, succeed]

theorem times_read_encodeEntries :
    ∀ {entries : List (Value × Value)} {bytes : List UInt8},
      encodeEntries entries = some bytes →
      ∀ {fuel : Nat} (rest : List UInt8), bytes.length ≤ fuel →
        (read fuel).pair.times entries.length (bytes ++ rest) =
          some (entries, rest)
  | [], _, isEncoded, fuel, rest, _ => by
      rw [encodeEntries] at isEncoded
      obtain rfl := Option.some.inj isEncoded
      rfl
  | (key, value) :: tail, _, isEncoded, fuel, rest, long => by
      rw [encodeEntries] at isEncoded
      obtain ⟨keyBytes, isKey, isRest⟩ := Option.bind_eq_some_iff.mp isEncoded
      obtain ⟨valueBytes, isValue, isTail⟩ :=
        Option.bind_eq_some_iff.mp isRest
      obtain ⟨tailBytes, isEntries, rfl⟩ := Option.map_eq_some_iff.mp isTail
      rw [List.length_append, List.length_append] at long
      have readKey := read_encode isKey (valueBytes ++ (tailBytes ++ rest))
        (show keyBytes.length ≤ fuel by omega)
      have readValue := read_encode isValue (tailBytes ++ rest)
        (show valueBytes.length ≤ fuel by omega)
      have readTail := times_read_encodeEntries isEntries rest
        (show tailBytes.length ≤ fuel by omega)
      have readPair :
          (read fuel).pair (keyBytes ++ (valueBytes ++ (tailBytes ++ rest))) =
            some ((key, value), tailBytes ++ rest) := by
        simp only [Reader.pair, Reader.map, Reader.andThen, readKey,
          Option.bind_some, readValue, succeed]
      simp only [List.length_cons, Reader.times, Reader.map, Reader.andThen,
        List.append_assoc, readPair, Option.bind_some, readTail, succeed]

end

/-- A byte of ASCII is a number by itself. -/
theorem first_of_ascii {head : UInt8} (ascii : head.toNat < 128)
    (tail : List UInt8) :
    first (head :: tail) = some (.integer head.toNat, tail) := by
  rw [first, List.length_cons, read_cons, Marker.ofByte, if_pos ascii]
  rfl

theorem Complete.integer_of_ascii {head : UInt8} {tail : List UInt8}
    {value : Value} (complete : Complete (head :: tail) value)
    (ascii : head.toNat < 128) : value = .integer head.toNat ∧ tail = [] := by
  rw [Complete, first_of_ascii ascii] at complete
  obtain ⟨sameValue, isNil⟩ := Prod.mk.inj (Option.some.inj complete)
  exact ⟨sameValue.symm, isNil⟩

theorem complete_encode {value : Value} {bytes : List UInt8}
    (isEncoded : encode value = some bytes) : Complete bytes value := by
  have isRead := read_encode isEncoded [] (Nat.le_refl bytes.length)
  rw [List.append_nil] at isRead
  exact isRead

end TurbocableServer.Foundations.MessagePack
