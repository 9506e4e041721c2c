/-!
# Byte strings

Byte strings are lists of bytes.  `Octets size` is a byte string of a fixed length: keys, nonces
and identifiers have such types, so their length is checked once, where they are made.
-/

namespace SealedGateway

attribute [local instance (2000)] instPowNat

/-- A byte string. -/
abbrev Bytes := List UInt8

/-- A byte string of a fixed length. -/
structure Octets (size : Nat) where
  /-- The bytes in order. -/
  toList : Bytes
  length_toList : toList.length = size
deriving DecidableEq

namespace Octets

attribute [simp] length_toList

@[ext] theorem ext {size : Nat} {left right : Octets size}
    (same : left.toList = right.toList) : left = right := by
  cases left
  cases right
  cases same
  rfl

/-- The byte string as a value of fixed length, if it has that length. -/
def ofList? (size : Nat) (bytes : Bytes) : Option (Octets size) :=
  if isExact : bytes.length = size then some ⟨bytes, isExact⟩ else none

theorem ofList?_toList {size : Nat} (octets : Octets size) :
    ofList? size octets.toList = some octets := by
  simp [ofList?]

theorem toList_of_ofList? {size : Nat} {bytes : Bytes} {octets : Octets size}
    (made : ofList? size bytes = some octets) : octets.toList = bytes := by
  unfold ofList? at made
  split at made
  · cases made; rfl
  · cases made

theorem ofList?_eq_none_iff {size : Nat} {bytes : Bytes} :
    ofList? size bytes = none ↔ bytes.length ≠ size := by
  unfold ofList?
  split <;> simp_all

/-- The byte string of zeros. -/
def zero (size : Nat) : Octets size :=
  ⟨List.replicate size 0, List.length_replicate⟩

/-- The first `size` bytes of a list, padded with zeros where the list is shorter. -/
def ofPadded (size : Nat) (bytes : Bytes) : Octets size :=
  ⟨(bytes ++ List.replicate size 0).take size, by simp⟩

end Octets

namespace Bytes

/-- Bytewise exclusive or, as long as the shorter operand. -/
def xor (left right : Bytes) : Bytes :=
  List.zipWith (· ^^^ ·) left right

theorem length_xor (left right : Bytes) :
    (xor left right).length = min left.length right.length := by
  simp [xor]

/-- Applying the same sufficiently long mask twice gives the bytes back. -/
theorem xor_xor_cancel (bytes mask : Bytes) (isLong : bytes.length ≤ mask.length) :
    xor (xor bytes mask) mask = bytes := by
  induction bytes generalizing mask with
  | nil => simp [xor]
  | cons byte rest ih =>
    cases mask with
    | nil => simp at isLong
    | cons maskByte maskRest =>
      have shorter : rest.length ≤ maskRest.length := by simpa using isLong
      have := ih maskRest shorter
      simp only [xor, List.zipWith_cons_cons] at this ⊢
      rw [this, UInt8.xor_assoc, UInt8.xor_self, UInt8.xor_zero]

/-- The first `count` blocks of a byte string; a block is shorter than `size` only where the byte
string ends. -/
def takeBlocks (size : Nat) : (count : Nat) → Bytes → List Bytes
  | 0, _ => []
  | count + 1, bytes => bytes.take size :: takeBlocks size count (bytes.drop size)

/-- A byte string cut into blocks of the same size, the last of which may be shorter. -/
def blocks (size : Nat) (bytes : Bytes) : List Bytes :=
  takeBlocks size ((bytes.length + (size - 1)) / size) bytes

theorem takeBlocks_flatten {size : Nat} {parts : List Bytes}
    (areBlocks : ∀ part ∈ parts, part.length = size) :
    takeBlocks size parts.length parts.flatten = parts := by
  induction parts with
  | nil => rfl
  | cons part rest ih =>
    rw [List.forall_mem_cons] at areBlocks
    obtain ⟨isBlock, restAreBlocks⟩ := areBlocks
    rw [List.length_cons, takeBlocks, List.flatten_cons, List.take_left' isBlock,
      List.drop_left' isBlock, ih restAreBlocks]

theorem length_flatten_of_areBlocks {size : Nat} {parts : List Bytes}
    (areBlocks : ∀ part ∈ parts, part.length = size) :
    parts.flatten.length = parts.length * size := by
  induction parts with
  | nil => simp
  | cons part rest ih =>
    rw [List.forall_mem_cons] at areBlocks
    rw [List.flatten_cons, List.length_append, areBlocks.1, ih areBlocks.2, List.length_cons,
      Nat.succ_mul, Nat.add_comm]

/-- Byte strings of one size, put one after the other, are the blocks of what they make. -/
theorem blocks_flatten {size : Nat} (isPositive : 0 < size) {parts : List Bytes}
    (areBlocks : ∀ part ∈ parts, part.length = size) : blocks size parts.flatten = parts := by
  have count : (parts.flatten.length + (size - 1)) / size = parts.length := by
    rw [length_flatten_of_areBlocks areBlocks, Nat.add_comm, Nat.add_mul_div_right _ _ isPositive,
      Nat.div_eq_of_lt (by omega), Nat.zero_add]
  rw [blocks, count, takeBlocks_flatten areBlocks]

/-- A byte string whose bytes are overwritten by zeros, from the first place to the last. -/
def overwritten (bytes : Bytes) : Bytes :=
  (List.range bytes.length).foldl (fun left place => left.set place 0) bytes

/-- Overwriting the first places leaves zeros there and the other bytes behind them. -/
theorem overwrite_first (bytes : Bytes) {places : Nat} (isWithin : places ≤ bytes.length) :
    (List.range places).foldl (fun left place => left.set place 0) bytes =
      List.replicate places 0 ++ bytes.drop places := by
  induction places with
  | zero => simp
  | succ places ih =>
    have isPlace : places < bytes.length := isWithin
    rw [List.range_succ, List.foldl_append, ih (Nat.le_of_lt isPlace), List.foldl_cons,
      List.foldl_nil, List.set_append_right _ _ (by simp), List.length_replicate, Nat.sub_self,
      List.drop_eq_getElem_cons isPlace, List.set_cons_zero, List.replicate_succ',
      List.append_assoc, List.singleton_append]

/-- No byte is left out. -/
theorem overwritten_eq (bytes : Bytes) : overwritten bytes = List.replicate bytes.length 0 := by
  rw [overwritten, overwrite_first bytes (Nat.le_refl _), List.drop_length, List.append_nil]

@[simp] theorem length_overwritten (bytes : Bytes) :
    (overwritten bytes).length = bytes.length := by
  rw [overwritten_eq, List.length_replicate]

/-- The number written by bytes in order of increasing weight. -/
def toNatLE : Bytes → Nat
  | [] => 0
  | byte :: rest => byte.toNat + 256 * toNatLE rest

/-- The lowest `size` bytes of a number in order of increasing weight. -/
def ofNatLE : (size : Nat) → Nat → Bytes
  | 0, _ => []
  | size + 1, value => UInt8.ofNat value :: ofNatLE size (value / 256)

@[simp] theorem length_ofNatLE (size value : Nat) : (ofNatLE size value).length = size := by
  induction size generalizing value with
  | zero => rfl
  | succ size ih => simp [ofNatLE, ih]

/-- Writing the lowest bytes of a number and reading them gives its remainder. -/
theorem toNatLE_ofNatLE (size value : Nat) :
    toNatLE (ofNatLE size value) = value % 256 ^ size := by
  induction size generalizing value with
  | zero => simp [toNatLE, ofNatLE, Nat.mod_one]
  | succ size ih =>
    have lowest : (UInt8.ofNat value).toNat = value % 256 := UInt8.toNat_ofNat'
    rw [ofNatLE, toNatLE, ih, lowest, Nat.pow_succ', Nat.mod_mul]

/-- The lowest `size` bytes of a number in order of decreasing weight. -/
def ofNatBE (size value : Nat) : Bytes :=
  (ofNatLE size value).reverse

@[simp] theorem length_ofNatBE (size value : Nat) : (ofNatBE size value).length = size := by
  simp [ofNatBE]

end Bytes
end SealedGateway
