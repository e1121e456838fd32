import Mathlib.Data.List.FinRange
import Mathlib.Data.Finset.Card

/-!
# The dual-page store of routes and parents

Each key has two slots, and all keys share the pages of one arena, one more than there are keys:

* `Slot`, `DualMeta`, `Ns`: what a slot, a key and a namespace keep;
* `Ns.beginWrite`: takes a page for the inactive slot of a key, freeing what it held, and under
  pressure the older page of the first key that has one;
* `Ns.commit`: makes the inactive slot the active one, the other staying as the older image;
* `Ns.readActive`, `Ns.readRetainedOld`: the image of the active slot, and the older one;
* `Ns.classifyCu`: what the slots say of an interrupted update.

The stores of routes and of parents differ in their number of keys.
-/

namespace Ninlil.RouteRelay

/-- The size of a page of the arena. -/
def pageBytes : ℕ := 4096

/-- A page of the arena. -/
structure Page where
  bytes : List UInt8
  size : bytes.length = pageBytes

/-- A page of zeros. -/
def Page.zero : Page := ⟨List.replicate pageBytes 0, List.length_replicate⟩

/-- The classes of an interrupted update. -/
inductive CuClass
  | none
  | absent
  | old
  | new
  | partial_
  | extra
  | third
  deriving DecidableEq

/-- A slot of a key. -/
structure Slot (n : ℕ) where
  present : Bool
  generation : UInt64
  length : UInt32
  pageIdx : Option (Fin (n + 1))

/-- A slot without a page. -/
def Slot.free {n : ℕ} : Slot n := ⟨false, 0, 0, none⟩

/-- The two slots of a key. -/
structure DualMeta (n : ℕ) where
  slots : Bool → Slot n
  active : Option Bool
  extraMark : Bool

/-- A namespace of `n` keys. -/
structure Ns (n : ℕ) where
  keys : Fin n → DualMeta n
  arena : Fin (n + 1) → Page
  arenaUsed : Fin (n + 1) → Bool
  cuClass : CuClass
  corrupt : Bool
  fenced : Bool

/-- What a slot holds. -/
structure Image where
  page : Page
  length : UInt32
  generation : UInt64

/-- The bytes of an image. -/
def Image.bytes (x : Image) : List UInt8 := x.page.bytes.take x.length.toNat

variable {n : ℕ}

/-! ### Keys -/

/-- A key that nothing was written to. -/
def DualMeta.init : DualMeta n := ⟨fun _ => .free, none, false⟩

/-- The slot that the next write goes to. -/
def DualMeta.inactive (b : DualMeta n) : Bool := b.active.elim false not

/-- A key with one slot changed. -/
def DualMeta.put (b : DualMeta n) (i : Bool) (x : Slot n) : DualMeta n :=
  { b with slots := Function.update b.slots i x }

/-- The slot other than the active one, when both are present. -/
def DualMeta.older (b : DualMeta n) : Option Bool :=
  b.active.bind fun a => if (b.slots false).present && (b.slots true).present then some !a else none

/-- The older slot, with a page that can be reclaimed. -/
def DualMeta.reclaimable (b : DualMeta n) : Bool :=
  b.older.any fun i => (b.slots i).pageIdx.isSome && (b.slots i).present

/-- The generation after another, past zero. -/
def succGeneration (g : UInt64) : UInt64 := if g + 1 = 0 then 1 else g + 1

/-- The generation that the next write gets. -/
def DualMeta.nextGeneration (b : DualMeta n) : UInt64 :=
  b.active.elim 1 fun a => succGeneration (b.slots a).generation

/-! ### The arena -/

/-- The first page that is not used. -/
def arenaAlloc {m : ℕ} (used : Fin m → Bool) : Option (Fin m) :=
  (List.finRange m).find? fun p => !used p

/-- An empty namespace. -/
def Ns.init : Ns n where
  keys := fun _ => .init
  arena := fun _ => .zero
  arenaUsed := fun _ => false
  cuClass := .absent
  corrupt := false
  fenced := false

/-- A namespace with one slot changed. -/
def Ns.put (s : Ns n) (k : Fin n) (i : Bool) (x : Slot n) : Ns n :=
  { s with keys := Function.update s.keys k ((s.keys k).put i x) }

/-- Marks a page used or free. -/
def Ns.mark (s : Ns n) (p : Fin (n + 1)) (used : Bool) : Ns n :=
  { s with arenaUsed := Function.update s.arenaUsed p used }

/-- Writes a page. -/
def Ns.fill (s : Ns n) (p : Fin (n + 1)) (page : Page) : Ns n :=
  { s with arena := Function.update s.arena p page }

/-- Gives the page of a slot back. -/
def Ns.release (s : Ns n) (k : Fin n) (i : Bool) : Ns n :=
  match ((s.keys k).slots i).pageIdx with
  | none => s
  | some p => (s.mark p false).put k i .free

/-- Gives the older page of the first key that has one back. -/
def Ns.reclaimOneOld (s : Ns n) : Option (Ns n) :=
  ((List.finRange n).find? fun k => (s.keys k).reclaimable).map fun k =>
    s.release k (s.keys k).inactive

/-- The page that a write takes, and the namespace that it takes it from. -/
def Ns.allocate (s : Ns n) : Option (Fin (n + 1)) × Ns n :=
  match arenaAlloc s.arenaUsed with
  | some p => (some p, s)
  | none =>
    match s.reclaimOneOld with
    | none => (none, s)
    | some s' => (arenaAlloc s'.arenaUsed, s')

/-! ### Writing -/

/-- Opens a write on a key: the page to fill and the generation it will have. -/
def Ns.beginWrite (s : Ns n) (keyId : ℕ) : Option (Fin (n + 1) × UInt64) × Ns n :=
  if h : s.fenced = false ∧ keyId < n then
    let slot := (s.keys ⟨keyId, h.2⟩).inactive
    match (s.release ⟨keyId, h.2⟩ slot).allocate with
    | (none, s') => (none, s')
    | (some p, s') =>
      (some (p, (s'.keys ⟨keyId, h.2⟩).nextGeneration),
        ((s'.mark p true).put ⟨keyId, h.2⟩ slot
          ⟨false, (s'.keys ⟨keyId, h.2⟩).nextGeneration, 0, some p⟩).fill p .zero)
  else (none, s)

/-- Makes the inactive slot of a key the active one. -/
def Ns.commit (s : Ns n) (keyId : ℕ) (length : UInt32) : Bool × Ns n :=
  if h : s.fenced = false ∧ keyId < n ∧ length.toNat ≤ pageBytes then
    let b := s.keys ⟨keyId, h.2.1⟩
    if (b.slots b.inactive).pageIdx.isNone then (false, s)
    else (true, { s with
      keys := Function.update s.keys ⟨keyId, h.2.1⟩
        { b.put b.inactive { b.slots b.inactive with length := length, present := true } with
          active := some b.inactive } })
  else (false, s)

/-! ### Reading -/

/-- The image in a slot. -/
def Ns.image (s : Ns n) (x : Slot n) : Option Image :=
  x.pageIdx.map fun p => ⟨s.arena p, x.length, x.generation⟩

/-- The image of the active slot. -/
def Ns.readActive (s : Ns n) (keyId : ℕ) : Option Image :=
  if h : keyId < n then
    (s.keys ⟨keyId, h⟩).active.bind fun a =>
      if ((s.keys ⟨keyId, h⟩).slots a).present then s.image ((s.keys ⟨keyId, h⟩).slots a) else none
  else none

/-- The image before the active one, while its page is retained. -/
def Ns.readRetainedOld (s : Ns n) (keyId : ℕ) : Option Image :=
  if h : keyId < n then
    (s.keys ⟨keyId, h⟩).older.bind fun i =>
      if ((s.keys ⟨keyId, h⟩).slots i).generation <
          ((s.keys ⟨keyId, h⟩).slots !i).generation then
        s.image ((s.keys ⟨keyId, h⟩).slots i)
      else none
  else none

/-! ### Interrupted updates -/

/-- What the slots of a key say of an interrupted update. -/
def DualMeta.classify (b : DualMeta n) : CuClass :=
  let x := b.slots false
  let y := b.slots true
  if b.extraMark then .extra
  else if !x.present && !y.present then .absent
  else if x.present && y.present && x.generation == y.generation && x.generation != 0 then .third
  else b.active.elim .partial_ fun a =>
    if x.present && y.present && decide ((b.slots a).generation < (b.slots !a).generation) then .old
    else .new

/-- What the slots of all keys say of an interrupted update. -/
def Ns.classifyCu (s : Ns n) : CuClass :=
  if s.fenced && (s.cuClass == .partial_ || s.cuClass == .extra || s.cuClass == .third) then
    s.cuClass
  else if s.corrupt then .partial_
  else if ∃ k, (s.keys k).classify = .third then .third
  else if ∃ k, (s.keys k).classify = .extra then .extra
  else if ∃ k, (s.keys k).classify = .partial_ then .partial_
  else if ∀ k, ((s.keys k).slots false).present = false ∧ ((s.keys k).slots true).present = false
    then .absent
  else if ∃ k, (s.keys k).classify = .old then .old
  else .new

/-! ### Routes and parents -/

/-- The keys of a namespace of routes: the directory, the route pages and the evidence pages. -/
def physicalKeyCount : ℕ := 21

/-- The keys of a namespace of parents. -/
def pkeyCount : ℕ := 22

abbrev RouteNs := Ns physicalKeyCount

abbrev ParentNs := Ns pkeyCount

def routeDualBeginWrite (s : RouteNs) := s.beginWrite

def routeDualCommit (s : RouteNs) := s.commit

def routeDualReadActive (s : RouteNs) := s.readActive

def routeDualReadRetainedOld (s : RouteNs) := s.readRetainedOld

def parentDualBeginWrite (s : ParentNs) := s.beginWrite

def parentDualCommit (s : ParentNs) := s.commit

def parentDualReadActive (s : ParentNs) := s.readActive

end Ninlil.RouteRelay
