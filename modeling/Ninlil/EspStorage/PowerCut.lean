import Ninlil.EspStorage.Media
import Ninlil.EspStorage.Publication

/-!
# Commits over failing media and restarts

* `Act`, `next`, `sees`: a port that is called and restarted, and what its client sees of it;
* `Serves`: the invariant of a port that is up: what a live writer holds of its namespace is what
  the medium holds;
* `begin_answers`, `commit_answers`: what one call does to the rows of the namespaces;
* `commits_atomic`: over any run the namespaces are cells that are replaced as a whole;
* `tornPort`: a medium whose writes may be cut behind the payload.
-/

namespace Ninlil.EspStorage

open AtomicStore
open Function (update update_of_ne update_self)

variable {μ : Type} {port : Port μ} {M : SlotMedia port} {config : Config} {policy : FullPolicy}
  {d : Directory} {s s' : Storage} {m m' : μ}

/-! ### Systems -/

/-- A medium, with the port that was started on it. -/
structure System (μ : Type) where
  storage : Option Storage := none
  media : μ

/-- A call, or a restart, which loses the port and starts it again. -/
inductive Act
  | call (op : Op)
  | restart

/-- No open creates a namespace. -/
def Act.Known (config : Config) (d : Directory) : Act → Prop
  | .call (.open name _) =>
    ∃ i : Fin hardMaxNamespaces, i.val < config.maxNamespaces ∧
      (d.entries i).occupied = true ∧ (d.entries i).name = name
  | _ => True

variable (port) in
def next (config : Config) (policy : FullPolicy) (c : System μ) : Act → System μ
  | .call op =>
    match c.storage with
    | none => c
    | some s => { storage := some (step port s c.media op).storage
                  media := (step port s c.media op).media }
  | .restart =>
    { storage := (privateInit port config policy c.media).1
      media := (privateInit port config policy c.media).2 }

variable (port) in
/-- A begin that hands out a token reads its namespace. -/
def seesBegin (s : Storage) (handle : ℕ) (r : Outcome μ) :
    Seen (Fin hardMaxNamespaces) (List Row) :=
  match resolveHandle port s handle, r.token.bind (resolveTxn port r.storage) with
  | some h, some t => .reads (s.handles h).namespaceIndex (r.storage.transactions t).view.rows
  | _, _ => .quiet

variable (port) in
/-- A full commit of a writer writes its namespace, or may have written it. -/
def seesCommit (s : Storage) (txn : ℕ) (durability : Durability) (r : Outcome μ) :
    Seen (Fin hardMaxNamespaces) (List Row) :=
  match resolveTxn port s txn with
  | none => .quiet
  | some t =>
    let txn := s.transactions t
    if durability = .full ∧ txn.mode = .readWrite then
      if r.status = .ok then .writes txn.nsIndex txn.view.rows
      else .attempts txn.nsIndex txn.view.rows
    else .quiet

variable (port) in
def seesCall (s : Storage) (op : Op) (r : Outcome μ) : Seen (Fin hardMaxNamespaces) (List Row) :=
  match op with
  | .begin handle _ => seesBegin port s handle r
  | .commit txn durability => seesCommit port s txn durability r
  | _ => .quiet

variable (port) in
def sees (c : System μ) : Act → Seen (Fin hardMaxNamespaces) (List Row)
  | .call op =>
    match c.storage with
    | none => .quiet
    | some s => seesCall port s op (step port s c.media op)
  | .restart => .quiet

/-! ### The invariant -/

/-- What a port that is up knows of its medium. -/
structure Serves (M : SlotMedia port) (config : Config) (d : Directory) (s : Storage) (m : μ) :
    Prop where
  valid : ConfigValid config
  config_eq : s.config = config
  directory : s.directory = d
  unfenced : s.directoryCacheFenced = false
  discipline : Discipline s.objects
  /-- A live transaction has one of the two modes, and a view that its edits made. -/
  live : ∀ t, (s.transactions t).inUse = true →
    ((s.transactions t).mode = .readOnly ∨ (s.transactions t).mode = .readWrite) ∧
      Staged (s.transactions t).view
  /-- The cache of a namespace with a live writer names its content. -/
  writer : ∀ t, (s.transactions t).inUse = true → (s.transactions t).mode = .readWrite →
    ∃ view, M.content d m (s.transactions t).nsIndex =
      some (view, (s.namespaces (s.transactions t).nsIndex).activeGeneration,
        (s.namespaces (s.transactions t).nsIndex).activeSlot)

/-- A call that leaves the directory and what the caches name: live transactions were live before,
with a view that edits made of theirs. -/
structure Quiet (s s' : Storage) : Prop where
  config : s'.config = s.config
  directory : s'.directory = s.directory
  fenced : s'.directoryCacheFenced = s.directoryCacheFenced
  active : ∀ i, (s'.namespaces i).activeGeneration = (s.namespaces i).activeGeneration ∧
    (s'.namespaces i).activeSlot = (s.namespaces i).activeSlot
  live : ∀ t, (s'.transactions t).inUse = true → (s.transactions t).inUse = true ∧
    (s'.transactions t).mode = (s.transactions t).mode ∧
    (s'.transactions t).nsIndex = (s.transactions t).nsIndex ∧
    (Staged (s.transactions t).view → Staged (s'.transactions t).view)

theorem quiet_iterators (s : Storage) (f : Fin hardMaxIters → Iterator) :
    Quiet s { s with iterators := f } :=
  ⟨rfl, rfl, rfl, fun _ => ⟨rfl, rfl⟩, fun _ hu => ⟨hu, rfl, rfl, id⟩⟩

theorem Quiet.refl (s : Storage) : Quiet s s := quiet_iterators s s.iterators

theorem Quiet.trans {s'' : Storage} (h : Quiet s s') (h' : Quiet s' s'') : Quiet s s'' := by
  refine ⟨h'.config.trans h.config, h'.directory.trans h.directory, h'.fenced.trans h.fenced,
    fun i => ⟨(h'.active i).1.trans (h.active i).1, (h'.active i).2.trans (h.active i).2⟩,
    fun t hu => ?_⟩
  obtain ⟨hu', hmode', hns', hstaged'⟩ := h'.live t hu
  obtain ⟨hu'', hmode, hns, hstaged⟩ := h.live t hu'
  exact ⟨hu'', hmode'.trans hmode, hns'.trans hns, fun hst => hstaged' (hstaged hst)⟩

theorem quiet_setView {t : Fin hardMaxTxns} {view : View}
    (h : Staged (s.transactions t).view → Staged view) : Quiet s (setView s t view) := by
  refine ⟨rfl, rfl, rfl, fun _ => ⟨rfl, rfl⟩, fun t' hu => ?_⟩
  rw [setView_transactions] at hu ⊢
  split_ifs at hu ⊢ with ht
  · rw [ht]
    exact ⟨hu, rfl, rfl, h⟩
  · exact ⟨hu, rfl, rfl, id⟩

/-- The marks of a namespace and the handles are no part of it. -/
theorem quiet_lease (s : Storage) (i : Fin hardMaxNamespaces) (leased cached : Bool)
    (f : Fin hardMaxNamespaces → Handle) :
    Quiet s { s with
      handles := f
      namespaces := update s.namespaces i
        { s.namespaces i with leased := leased, cached := cached } } := by
  refine ⟨rfl, rfl, rfl, fun j => ?_, fun t hu => ⟨hu, rfl, rfl, id⟩⟩
  dsimp only
  rw [Function.update_apply]
  split_ifs with hj
  · rw [hj]
    exact ⟨rfl, rfl⟩
  · exact ⟨rfl, rfl⟩

theorem quiet_consumeTxn (s : Storage) (t : Fin hardMaxTxns) : Quiet s (consumeTxn s t) := by
  have hactive : (consumeTxn s t).namespaces = s.namespaces ∧
      (consumeTxn s t).config = s.config ∧ (consumeTxn s t).directory = s.directory ∧
      (consumeTxn s t).directoryCacheFenced = s.directoryCacheFenced := by
    unfold consumeTxn consumeItersForTxn
    dsimp only
    split_ifs <;> exact ⟨rfl, rfl, rfl, rfl⟩
  refine ⟨hactive.2.1, hactive.2.2.1, hactive.2.2.2, fun i => hactive.1 ▸ ⟨rfl, rfl⟩,
    fun t' hu => ?_⟩
  have heq := (keeps_consumeTxn s t).transaction_eq hu
  rw [heq] at hu ⊢
  exact ⟨hu, rfl, rfl, id⟩

theorem quiet_portClose (s : Storage) (token : ℕ) : Quiet s (portClose port s token) := by
  have hall : ∀ (s : Storage) (h : Fin hardMaxNamespaces) (g : ℕ),
      Quiet s (closeTransactions s h g) := by
    intro s h g
    unfold closeTransactions
    generalize List.finRange hardMaxTxns = ts
    induction ts generalizing s with
    | nil => exact .refl s
    | cons t ts ih =>
      rw [List.foldl_cons]
      refine Quiet.trans ?_ (ih _)
      split_ifs
      · exact quiet_consumeTxn s t
      · exact .refl s
  unfold portClose
  split
  · exact .refl s
  · rename_i h _
    exact (hall s h (s.handles h).generation).trans (quiet_lease _ _ _ _ _)

theorem Serves.next (h : Serves M config d s m) (hs : Quiet s s') (hm : M.Same m m')
    (hd : Discipline s'.objects) : Serves M config d s' m' where
  valid := h.valid
  config_eq := hs.config.trans h.config_eq
  directory := hs.directory.trans h.directory
  unfenced := hs.fenced.trans h.unfenced
  discipline := hd
  live := by
    intro t hu
    obtain ⟨hu', hmode, -, hstaged⟩ := hs.live t hu
    obtain ⟨hmodes, hview⟩ := h.live t hu'
    rw [hmode]
    exact ⟨hmodes, hstaged hview⟩
  writer := by
    intro t hu hw
    obtain ⟨hu', hmode, hns, -⟩ := hs.live t hu
    obtain ⟨view, hview⟩ := h.writer t hu' (hmode ▸ hw)
    refine ⟨view, ?_⟩
    rw [hns, hm.content, (hs.active _).1, (hs.active _).2]
    exact hview

/-! ### Opening -/

theorem decodeDirectory_generation {image : List UInt8}
    (h : decodeDirectory image config = .valid d) : d.generation ≠ 0 := by
  unfold decodeDirectory at h
  split_ifs at h with _ _ hok
  cases h
  exact hok.2.2.1

/-- A directory with an entry was not made up for an erased medium. -/
theorem directory_not_fresh (hdir : M.directory config m = some d) {i : Fin hardMaxNamespaces}
    (hocc : (d.entries i).occupied = true) : d.generation ≠ 0 := by
  unfold SlotMedia.directory selectDirectory at hdir
  split at hdir
  · rename_i d0 d1 h0 h1
    split_ifs at hdir
    · cases hdir
      exact decodeDirectory_generation (d := d0) h0
    · cases hdir
      exact decodeDirectory_generation (d := d1) h1
  · rename_i d0 h0 _
    cases hdir
    exact decodeDirectory_generation (d := d0) h0
  · rename_i d1 h1 _
    cases hdir
    exact decodeDirectory_generation (d := d1) h1
  · cases hdir
    cases hocc
  · cases hdir

/-- Opening a namespace that the directory has reads nothing. -/
theorem portOpen_known (h : Serves M config d s m) (hdir : M.directory config m = some d)
    {name : List UInt8} {schema : UInt32}
    (hknown : Act.Known config d (.call (.open name schema))) :
    (portOpen port s m name schema).media = m ∧
      Quiet s (portOpen port s m name schema).storage := by
  obtain ⟨i, hi, hocc, hname⟩ := hknown
  have hfind : findDirectoryIndex s name ≠ none := by
    unfold findDirectoryIndex
    rw [ne_eq, List.find?_eq_none]
    intro hnone
    refine absurd (hnone i (List.mem_finRange i)) ?_
    rw [h.config_eq, h.directory]
    simp [hi, hocc, hname]
  have hloaded : ensureDirectory port s m = (some s, m) := by
    refine if_neg (not_or.2 ⟨by rw [h.unfenced]; decide, fun hfresh => ?_⟩)
    rw [h.directory] at hfresh
    exact directory_not_fresh hdir hocc hfresh.1
  unfold portOpen
  rw [hloaded]
  split_ifs
  · exact ⟨rfl, .refl s⟩
  · exact ⟨rfl, .refl s⟩
  dsimp only
  split
  · split_ifs
    · exact ⟨rfl, .refl s⟩
    · exact ⟨rfl, .refl s⟩
    unfold openHandle
    split
    · exact ⟨rfl, .refl s⟩
    · exact ⟨rfl, quiet_lease s _ _ _ _⟩
  · exact absurd ‹_› hfind

/-! ### One call -/

/-- What a call leaves, with what is seen of it. -/
structure Answers (M : SlotMedia port) (config : Config) (d : Directory) (m : μ)
    (seen : Seen (Fin hardMaxNamespaces) (List Row)) (s' : Storage) (m' : μ) : Prop where
  serves : Serves M config d s' m'
  directory : M.directory config m' = M.directory config m
  readable : ∀ i, M.content d m i ≠ none → M.content d m' i ≠ none
  step : Step (M.rows d m) seen (M.rows d m')

/-- A call that leaves every byte of the medium. -/
theorem Serves.answers {seen : Seen (Fin hardMaxNamespaces) (List Row)}
    (h : Serves M config d s' m') (hm : M.Same m m')
    (hseen : Step (M.rows d m) seen (M.rows d m)) : Answers M config d m seen s' m' where
  serves := h
  directory := SlotMedia.directory_congr hm.1 config
  readable := fun i hi => by rwa [hm.content]
  step := by rwa [hm.rows]

/-- A begin hands out nothing, or starts a transaction on the content of a namespace. -/
theorem portBegin_cases (M : SlotMedia port) (s : Storage) (m : μ) (handle : ℕ) (mode : Mode) :
    ((portBegin port s m handle mode).token = none ∧ (portBegin port s m handle mode).storage = s ∧
        M.Same m (portBegin port s m handle mode).media) ∨
      ∃ h t view gen slot m', resolveHandle port s handle = some h ∧
        (mode = .readOnly ∨ mode = .readWrite) ∧
        (s.transactions t).generation + 1 ≤ tokenGenerationMaxForBits hardMaxTxns port.uintptrBits ∧
        loadNamespaceContent port s m (s.handles h).namespaceIndex =
          (some (view, gen, slot), m') ∧
        portBegin port s m handle mode =
          { status := .ok
            token := some (packToken port.uintptrBits t ((s.transactions t).generation + 1)
              hardMaxTxns)
            storage :=
              startTransaction s h mode t ((s.transactions t).generation + 1) view gen slot
            media := m' } := by
  unfold portBegin
  split
  · exact .inl ⟨rfl, rfl, .refl m⟩
  rename_i h hres
  split_ifs with h1 h2 h3
  · exact .inl ⟨rfl, rfl, .refl m⟩
  · exact .inl ⟨rfl, rfl, .refl m⟩
  · exact .inl ⟨rfl, rfl, .refl m⟩
  split
  · exact .inl ⟨rfl, rfl, .refl m⟩
  rename_i t g hf
  split
  · rename_i hl
    exact .inl ⟨rfl, rfl, (SlotMedia.loadNamespaceContent_spec hl).1⟩
  · rename_i view gen slot m' hl
    obtain ⟨-, hmax, rfl⟩ := freeRecord_eq_some hf
    have hmode : mode = .readOnly ∨ mode = .readWrite := by
      by_contra hc
      exact h1 (not_or.1 hc)
    exact .inr ⟨h, t, view, gen, slot, m', hres, hmode, hmax, hl, rfl⟩

/-- A begin shows the content of its namespace. -/
theorem begin_answers (h : Serves M config d s m) (handle : ℕ) (mode : Mode) :
    Answers M config d m (seesBegin port s handle (portBegin port s m handle mode))
      (portBegin port s m handle mode).storage (portBegin port s m handle mode).media := by
  have hd : Discipline (portBegin port s m handle mode).storage.objects :=
    (@step_effect _ port s m (.begin handle mode)).discipline h.discipline
  rcases portBegin_cases M s m handle mode with
    ⟨htoken, hs, hsame⟩ | ⟨hdl, t, view, gen, slot, m', hres, hmode, hmax, hload, hr⟩
  · rw [hs]
    refine (h.next (.refl s) hsame h.discipline).answers hsame ?_
    rw [show seesBegin port s handle (portBegin port s m handle mode) = .quiet by
      unfold seesBegin; rw [htoken]; cases resolveHandle port s handle <;> rfl]
    exact .quiet _
  rw [hr] at hd ⊢
  obtain ⟨rows, hstorable, rfl⟩ := loadNamespaceContent_rows hload
  obtain ⟨hsame, hcontent⟩ := SlotMedia.loadNamespaceContent_spec (M := M) hload
  replace hcontent := (hcontent.resolve_left nofun).symm
  rw [h.directory] at hcontent
  have hnew : (startTransaction s hdl mode t ((s.transactions t).generation + 1)
      (View.ofRows rows) gen slot).transactions t =
        { inUse := true, generation := (s.transactions t).generation + 1, handleIndex := hdl
          handleGeneration := (s.handles hdl).generation, mode := mode
          nsIndex := (s.handles hdl).namespaceIndex, view := View.ofRows rows } :=
    update_self _ _ _
  have hold : ∀ t', t' ≠ t → (startTransaction s hdl mode t ((s.transactions t).generation + 1)
      (View.ofRows rows) gen slot).transactions t' = s.transactions t' := fun t' ht =>
    update_of_ne ht _ _
  refine Serves.answers ⟨h.valid, h.config_eq, h.directory, h.unfenced, hd, ?_, ?_⟩ hsame ?_
  · intro t' hu
    by_cases ht : t' = t
    · rw [ht, hnew]
      exact ⟨hmode, staged_ofRows hstorable⟩
    · rw [hold t' ht] at hu ⊢
      exact h.live t' hu
  · intro t' hu hw
    rw [hsame.content]
    -- a writer of this namespace is told the slot that was read, the others keep theirs
    by_cases hns : ((startTransaction s hdl mode t ((s.transactions t).generation + 1)
        (View.ofRows rows) gen slot).transactions t').nsIndex = (s.handles hdl).namespaceIndex
    · refine ⟨View.ofRows rows, ?_⟩
      rw [hns, hcontent]
      simp [startTransaction]
    · have ht : t' ≠ t := fun heq => hns (by rw [heq, hnew])
      rw [hold t' ht] at hu hw hns ⊢
      obtain ⟨old, hwriter⟩ := h.writer t' hu hw
      refine ⟨old, hwriter.trans ?_⟩
      simp [startTransaction, update_of_ne hns]
  · have hlive := (@resolveTxn_packToken _ port _ _ _ (by omega) hmax _).2
      ⟨rfl, congrArg Transaction.inUse hnew, congrArg Transaction.generation hnew⟩
    have hshown : M.rows d m (s.handles hdl).namespaceIndex = (View.ofRows rows).rows := by
      unfold SlotMedia.rows
      rw [hcontent]
      rfl
    simp only [seesBegin, hres, Option.bind_some, hlive]
    rw [congrArg Transaction.view hnew, ← hshown]
    exact .reads _ _

/-- A namespace has at most one live writer. -/
theorem Serves.writer_unique (h : Serves M config d s m) {t t' : Fin hardMaxTxns}
    (hu : (s.transactions t).inUse = true) (hw : (s.transactions t).mode = .readWrite)
    (hu' : (s.transactions t').inUse = true) (hw' : (s.transactions t').mode = .readWrite)
    (hns : (s.transactions t').nsIndex = (s.transactions t).nsIndex) : t' = t := by
  obtain ⟨hh, -, hi⟩ := h.discipline.owner t hu
  obtain ⟨hh', -, hi'⟩ := h.discipline.owner t' hu'
  have hhandle := h.discipline.handle_unique _ _ hh' hh (hi'.trans (hns.trans hi.symm))
  exact h.discipline.writer_unique _ _ _ ⟨hu', hw', hhandle⟩ ⟨hu, hw, rfl⟩

/-- A port whose writer is gone, whatever its namespace has become. -/
theorem Serves.ended (h : Serves M config d s m) {t : Fin hardMaxTxns}
    (hu : (s.transactions t).inUse = true) (hw : (s.transactions t).mode = .readWrite)
    {f : Fin hardMaxNamespaces → NamespaceCache}
    (hf : ∀ j, j ≠ (s.transactions t).nsIndex → f j = s.namespaces j)
    (hother : ∀ j, j ≠ (s.transactions t).nsIndex → M.content d m' j = M.content d m j)
    (hd : Discipline (consumeTxn { s with namespaces := f } t).objects) :
    Serves M config d (consumeTxn { s with namespaces := f } t) m' := by
  have hquiet := quiet_consumeTxn { s with namespaces := f } t
  have hkeep := keeps_consumeTxn { s with namespaces := f } t
  have hgone : ((consumeTxn { s with namespaces := f } t).transactions t).inUse = false := by
    unfold consumeTxn
    simp
  refine ⟨h.valid, hquiet.config.trans h.config_eq, hquiet.directory.trans h.directory,
    hquiet.fenced.trans h.unfenced, hd, fun t' hu' => ?_, fun t' hu' hw' => ?_⟩
  · have heq := hkeep.transaction_eq hu'
    rw [heq] at hu' ⊢
    exact h.live t' hu'
  · have heq : (consumeTxn { s with namespaces := f } t).transactions t' = s.transactions t' :=
      hkeep.transaction_eq hu'
    have ht : t' ≠ t := by
      rintro rfl
      rw [hgone] at hu'
      cases hu'
    rw [heq] at hu' hw' ⊢
    have hne : (s.transactions t').nsIndex ≠ (s.transactions t).nsIndex :=
      fun hns => ht (h.writer_unique hu hw hu' hw' hns)
    obtain ⟨view, hview⟩ := h.writer t' hu' hw'
    refine ⟨view, ?_⟩
    rw [hother _ hne, (hquiet.active _).1, (hquiet.active _).2, hview]
    dsimp only
    rw [hf _ hne]

/-- The image of a view that can be stored. -/
theorem encodeSlot_storable {schema : UInt32} {generation : UInt64} {name image : List UInt8}
    {view : View} (hblob : view.InBlob) (hrows : Storable view.rows)
    (hused : view.usedLogicalBytes = logicalBytes view.entries)
    (h : encodeSlot schema generation name view = some image) :
    image = slotImage schema generation name view.rows.length (rowBytes view.rows)
      (packRows view.rows) := by
  have hguard : 1 ≤ name.length ∧ name.length ≤ 255 ∧ generation ≠ 0 := by
    unfold encodeSlot at h
    split_ifs at h with hbad
    simp only [not_or] at hbad
    exact ⟨by omega, by omega, hbad.2.2.1⟩
  rw [encodeSlot_eq hblob hrows hused hguard.2.2 hguard.1 hguard.2.1] at h
  exact (Option.some.inj h).symm

/-- A commit ends its transaction; the full commit of a writer may write its image before. -/
theorem portCommit_cases {txn : ℕ} {t : Fin hardMaxTxns} (hres : resolveTxn port s txn = some t)
    (durability : Durability) :
    (∃ st, portCommit port s m txn durability =
        { status := st, storage := consumeTxn s t, media := m } ∧
          (durability = .full → (s.transactions t).mode ≠ .readOnly → st ≠ .ok)) ∨
      durability = .full ∧ (s.transactions t).mode ≠ .readOnly ∧
        capacityOk s.config (viewRecompute (s.transactions t).view) ∧
        (s.namespaces (s.transactions t).nsIndex).activeGeneration.toNat ≠ 2 ^ 64 - 1 ∧
        ∃ image w f st,
          encodeSlot (s.directory.entries (s.transactions t).nsIndex).schema
            ((s.namespaces (s.transactions t).nsIndex).activeGeneration + 1)
            (s.directory.entries (s.transactions t).nsIndex).name
            (viewRecompute (s.transactions t).view) = some image ∧
          writeSlot port m (mediaDataOffset (s.transactions t).nsIndex
            (sibling (s.namespaces (s.transactions t).nsIndex).activeSlot)) image = w ∧
          (∀ j, j ≠ (s.transactions t).nsIndex → f j = s.namespaces j) ∧
          (st = .ok → w.1 = none ∨ w.1 = some .ok) ∧
          portCommit port s m txn durability =
            { status := st, storage := consumeTxn { s with namespaces := f } t, media := w.2 } := by
  generalize hr : portCommit port s m txn durability = r
  unfold portCommit at hr
  rw [hres] at hr
  dsimp only at hr
  split at hr
  · rename_i hfull
    exact .inl ⟨_, hr.symm, fun h => absurd h hfull⟩
  rename_i hfull
  split at hr
  · rename_i hro
    exact .inl ⟨_, hr.symm, fun _ h => absurd hro h⟩
  rename_i hro
  split at hr
  · exact .inl ⟨_, hr.symm, nofun⟩
  rename_i hcap
  split at hr
  · exact .inl ⟨_, hr.symm, nofun⟩
  rename_i hmax
  split at hr
  · exact .inl ⟨_, hr.symm, nofun⟩
  rename_i image henc
  split at hr
  · rename_i st m' hw
    exact .inr ⟨not_not.1 hfull, hro, not_not.1 hcap, hmax, image, _, s.namespaces, st, henc, hw,
      fun _ _ => rfl, fun h => .inr (h ▸ rfl), hr.symm⟩
  · rename_i m' hw
    exact .inr ⟨not_not.1 hfull, hro, not_not.1 hcap, hmax, image, _, _, _, henc, hw,
      fun j hj => update_of_ne hj _ _, fun _ => .inl rfl, hr.symm⟩

/-- A commit leaves the rows of its namespace or replaces them by those of the transaction. -/
theorem commit_answers (h : Serves M config d s m) (txn : ℕ) (durability : Durability) :
    Answers M config d m (seesCommit port s txn durability (portCommit port s m txn durability))
      (portCommit port s m txn durability).storage (portCommit port s m txn durability).media := by
  have hd : Discipline (portCommit port s m txn durability).storage.objects :=
    (@step_effect _ port s m (.commit txn durability)).discipline h.discipline
  cases hres : resolveTxn port s txn with
  | none =>
    have hr : portCommit port s m txn durability =
        { status := .corrupt, storage := s, media := m } := by rw [portCommit, hres]
    rw [hr]
    simp only [seesCommit, hres]
    exact (h.next (.refl s) (.refl m) h.discipline).answers (.refl m) (.quiet _)
  | some t =>
    have hu : (s.transactions t).inUse = true := by
      rw [resolveTxn_eq] at hres
      exact resolve_inUse hres
    obtain ⟨hmodes, hstaged⟩ := h.live t hu
    rcases portCommit_cases (m := m) hres durability with ⟨st, hr, hst⟩ |
      ⟨hfull, hro, hcap, hmax, image, w, f, st, henc, hw, hf, hst, hr⟩
    · rw [hr] at hd ⊢
      refine (h.next (quiet_consumeTxn s t) (.refl m) hd).answers (.refl m) ?_
      simp only [seesCommit, hres]
      split_ifs with hfull hok
      · exact absurd hok (hst hfull.1 fun hro => by rw [hro] at hfull; cases hfull.2)
      · exact .lost _ _ _
      · exact .quiet _
    · have hrw := hmodes.resolve_left hro
      obtain ⟨old, hold⟩ := h.writer t hu hrw
      have hview : ViewOk (viewRecompute (s.transactions t).view) :=
        ⟨hstaged.ok.inBlob, hstaged.ok.row, hstaged.ok.increase, rfl⟩
      rw [h.config_eq] at hcap
      have hstorable : Storable (s.transactions t).view.rows := hview.storable
        (hcap.1.trans h.valid.2.2.2.1) (hcap.2.trans h.valid.2.2.2.2.2.1)
      have himage := encodeSlot_storable hview.inBlob hstorable rfl henc
      rw [h.directory] at himage
      have hwritten := SlotMedia.writeSlot_content config hold hstorable hmax himage
      rw [hw] at hwritten
      rw [hr] at hd ⊢
      refine ⟨h.ended hu hrw hf hwritten.other hd, hwritten.directory, hwritten.readable, ?_⟩
      simp only [seesCommit, hres]
      rw [if_pos ⟨hfull, hrw⟩]
      -- the slot that the cache names is untouched: the image went to the other one
      rcases hwritten.rows with ⟨hrows, hno⟩ | hrows
      · rw [hrows, if_neg fun hok => (hst hok).elim hno hwritten.failed]
        exact .lost _ _ _
      · rw [hrows]
        split_ifs
        · exact .writes _ _ _
        · exact .kept _ _ _

/-- Any call, with a namespace that is opened known to the directory. -/
theorem call_answers (h : Serves M config d s m) (hdir : M.directory config m = some d) {op : Op}
    (hknown : Act.Known config d (.call op)) :
    Answers M config d m (seesCall port s op (step port s m op)) (step port s m op).storage
      (step port s m op).media := by
  have hd := (@step_effect _ port s m op).discipline h.discipline
  -- a call that leaves the medium alone
  have quiet : ∀ {m' : μ}, M.Same m m' → Quiet s (step port s m op).storage →
      Answers M config d m .quiet (step port s m op).storage m' := fun hm hs =>
    (h.next hs hm hd).answers hm (.quiet _)
  cases op with
  | «open» name schema =>
    obtain ⟨hm, hs⟩ := portOpen_known h hdir hknown
    have hsame : M.Same m (portOpen port s m name schema).media := by
      rw [hm]
      exact .refl m
    exact quiet hsame hs
  | close handle => exact quiet (.refl m) (quiet_portClose s handle)
  | begin handle mode => exact begin_answers h handle mode
  | get txn key capacity => exact quiet (.refl m) (.refl s)
  | put txn key value =>
    refine quiet (.refl m) ?_
    rcases @portPut_cases _ port s txn key value with ⟨-, hs⟩ | ⟨t, view, -, hrow, hp, heq⟩
    · simp only [step, hs]
      exact .refl s
    · simp only [step, heq]
      exact quiet_setView fun hst => (hst.put hrow hp).1
  | erase txn key =>
    refine quiet (.refl m) ?_
    rcases @portErase_cases _ port s txn key with ⟨-, hs⟩ | ⟨t, view, -, he, heq⟩
    · simp only [step, hs]
      exact .refl s
    · simp only [step, heq]
      exact quiet_setView fun hst => (hst.erase he).1
  | iterOpen txn keyPrefix =>
    refine quiet (.refl m) ?_
    simp only [step, portIterOpen]
    split
    · exact .refl s
    · split_ifs
      · exact .refl s
      · exact .refl s
      · split
        · exact .refl s
        · exact quiet_iterators s _
  | iterNext iter keyCapacity valueCapacity =>
    refine quiet (.refl m) ?_
    simp only [step, portIterNext]
    split
    · exact .refl s
    · split_ifs
      · exact .refl s
      · split
        · exact .refl s
        · split_ifs
          · exact .refl s
          · exact quiet_iterators s _
  | iterClose iter =>
    refine quiet (.refl m) ?_
    simp only [step, portIterClose]
    split
    · exact .refl s
    · exact quiet_iterators s _
  | capacity handle =>
    refine quiet ?_ (.refl s)
    simp only [step, portCapacity]
    split
    · exact .refl m
    · rename_i hdl _
      rcases hl : loadNamespaceContent port s m (s.handles hdl).namespaceIndex with
        ⟨_ | ⟨view, gen, slot⟩, m'⟩ <;> exact (SlotMedia.loadNamespaceContent_spec hl).1
  | commit txn durability => exact commit_answers h txn durability
  | rollback txn =>
    refine quiet (.refl m) ?_
    simp only [step, portRollback]
    split
    · exact .refl s
    · exact quiet_consumeTxn s _

/-! ### Runs -/

/-- What every run keeps. -/
structure Consistent (M : SlotMedia port) (config : Config) (d : Directory) (m₀ : μ)
    (c : System μ) : Prop where
  directory : M.directory config c.media = some d
  readable : ∀ i, M.content d m₀ i ≠ none → M.content d c.media i ≠ none
  serves : ∀ s, c.storage = some s → Serves M config d s c.media

/-- A restart reads the directory only, and starts without transactions. -/
theorem privateInit_serves (hdir : M.directory config m = some d) :
    M.Same m (privateInit port config policy m).2 ∧
      ∀ s, (privateInit port config policy m).1 = some s →
        Serves M config d s (privateInit port config policy m).2 := by
  have hobj := fun s => @objects_privateInit μ port s config policy m
    (privateInit port config policy m).2
  unfold privateInit at hobj ⊢
  by_cases hvalid : ¬ConfigValid config
  · rw [if_pos hvalid]
    exact ⟨.refl m, nofun⟩
  rw [if_neg hvalid] at hobj ⊢
  rcases hl : loadDirectory port config m with ⟨_ | d', m'⟩
  · exact ⟨(SlotMedia.loadDirectory_spec hl).1, nofun⟩
  obtain ⟨hsame, hload⟩ := SlotMedia.loadDirectory_spec (M := M) hl
  obtain rfl : d' = d := Option.some.inj ((hload.resolve_left nofun).trans hdir)
  rw [hl] at hobj
  refine ⟨hsame, fun s hs => ?_⟩
  cases hs
  have hdisc := discipline_initial (fun _ => {}) fun _ => rfl
  exact ⟨not_not.1 hvalid, rfl, rfl, rfl, hobj _ rfl ▸ hdisc, nofun, nofun⟩

/-- **Commits are atomic.** Over any run of calls and restarts, on a medium whose every call may
fail, an erase with its slot read as before or rejected and a write with its slot read as the image
or rejected, in which no open creates a namespace: the namespaces are cells that a full commit
replaces as a whole. A commit that answers `ok` has replaced its namespace, one that
fails has replaced it or left it, a begin shows the last replacement, and every namespace that could
be loaded still can. -/
theorem commits_atomic (M : SlotMedia port) (policy : FullPolicy) {m : μ}
    (hdir : M.directory config m = some d) (acts : List Act)
    (hknown : ∀ act ∈ acts, act.Known config d) :
    Run (M.rows d m) (observed (next port config policy) (sees port) { media := m } acts)
        (M.rows d (acts.foldl (next port config policy) { media := m }).media) ∧
      M.directory config (acts.foldl (next port config policy) { media := m }).media = some d ∧
      ∀ i, M.content d m i ≠ none →
        M.content d (acts.foldl (next port config policy) { media := m }).media i ≠ none := by
  have hstep : ∀ (c : System μ) (act : Act), Consistent M config d m c → act.Known config d →
      Consistent M config d m (next port config policy c act) ∧
        Step (M.rows d c.media) (sees port c act)
          (M.rows d (next port config policy c act).media) := by
    intro c act hc hact
    obtain ⟨storage, m'⟩ := c
    cases act with
    | restart =>
      obtain ⟨hsame, hserves⟩ := @privateInit_serves _ _ _ _ policy _ _ hc.directory
      refine ⟨⟨(SlotMedia.directory_congr hsame.1 config).trans hc.directory, fun i hi => ?_,
        hserves⟩, ?_⟩
      · exact (hsame.content d).symm ▸ hc.readable i hi
      · simp only [next, sees]
        rw [hsame.rows]
        exact .quiet _
    | call op =>
      cases storage with
      | none => exact ⟨hc, .quiet _⟩
      | some s =>
        have ha := call_answers (hc.serves s rfl) hc.directory hact
        exact ⟨⟨ha.directory.trans hc.directory, fun i hi => ha.readable i (hc.readable i hi),
          fun s' hs => Option.some.inj hs ▸ ha.serves⟩, ha.step⟩
  have hinit : Consistent M config d m { media := m } := ⟨hdir, fun _ hi => hi, nofun⟩
  obtain ⟨hlast, hrun⟩ := Run.of_steps _ (fun c => M.rows d c.media) hstep acts hknown hinit
  exact ⟨hrun, hlast.directory, hlast.readable⟩

/-! ### A run -/

theorem mediaDataOffset_ne {i j : Fin hardMaxNamespaces} {k e : Fin 2} (h : (j, e) ≠ (i, k)) :
    mediaDataOffset j e ≠ mediaDataOffset i k := by
  revert i j k e
  unfold mediaDataOffset
  rw [slotBytes_eq]
  decide

theorem mediaDirectoryOffset_ne (i : Fin hardMaxNamespaces) (k e : Fin 2) :
    mediaDirectoryOffset e ≠ mediaDataOffset i k := by
  unfold mediaDirectoryOffset mediaDataOffset
  rw [slotBytes_eq, show dirBytes = 4096 from rfl]
  omega

/-- A call that replaces a slot of a medium of blocks. -/
theorem block_update (m : ℕ → List UInt8) (i : Fin hardMaxNamespaces) (k : Fin 2)
    (image : List UInt8) :
    (fun e => update m (mediaDataOffset i k) image (mediaDirectoryOffset e)) =
        (fun e => m (mediaDirectoryOffset e)) ∧
      OnlyAt (fun j e => m (mediaDataOffset j e))
        (fun j e => update m (mediaDataOffset i k) image (mediaDataOffset j e)) i k :=
  ⟨funext fun e => update_of_ne (mediaDirectoryOffset_ne i k e) _ _,
    fun _ _ hne => update_of_ne (mediaDataOffset_ne hne) _ _⟩

/-- How much of a write arrives: all of it, all but what is behind the payload, or nothing. -/
inductive Arrival
  | whole
  | payload
  | nothing

/-- What a write leaves of its image in an erased slot. -/
def Arrival.image (a : Arrival) (bytes : List UInt8) : List UInt8 :=
  match a with
  | .whole => bytes
  | .payload => cutImage bytes (payloadEnd bytes)
  | .nothing => erasedSlot

def Arrival.status : Arrival → MediaStatus
  | .whole => .ok
  | .payload => .unknown
  | .nothing => .definiteFail

/-- Blocks whose writes may be cut: what arrives of each write is planned. -/
def tornPort : Port ((ℕ → List UInt8) × List Arrival) where
  media :=
    { read := fun m offset _ => (some (m.1 offset), m)
      write := fun m offset bytes =>
        ((m.2.headD .whole).status,
          update m.1 offset ((m.2.headD .whole).image bytes), m.2.tail)
      erase := fun m offset n => (.ok, update m.1 offset (List.replicate n 0xFF), m.2)
      sync := fun m => (.ok, m) }
  uintptrBits := 32

theorem Arrival.decodes (a : Arrival) {image : List UInt8} (hlen : image.length = slotBytes) :
    DecodesAs (a.image image) image ∨ a.status ≠ .ok ∧ Rejected (a.image image) := by
  cases a with
  | whole => exact .inl (DecodesAs.refl image)
  | payload => exact .inl (decodesAs_cut hlen le_rfl (Nat.min_le_left _ _))
  | nothing => exact .inr ⟨by decide, rejected_erasedSlot⟩

/-- A medium whose writes may be cut. -/
def tornMedia : SlotMedia tornPort where
  sector := fun m e => m.1 (mediaDirectoryOffset e)
  slot := fun m i k => m.1 (mediaDataOffset i k)
  read := by rintro m o n r rfl; exact ⟨rfl, rfl⟩
  read_sector := fun h => (Option.some.inj (Prod.mk.inj h).1).symm
  read_slot := fun h => (Option.some.inj (Prod.mk.inj h).1).symm
  sync := by rintro m r rfl; exact ⟨rfl, rfl⟩
  erase := by
    rintro ⟨m, plan⟩ i k r rfl
    obtain ⟨hsector, honly⟩ := block_update m i k (List.replicate slotBytes 0xFF)
    exact ⟨hsector, honly, .inl (update_self _ _ _)⟩
  write := by
    rintro ⟨m, plan⟩ i k image r - hlen rfl
    dsimp only [tornPort]
    have hdecodes := (plan.headD .whole).decodes hlen
    generalize (plan.headD .whole).image image = bytes at hdecodes ⊢
    obtain ⟨hsector, honly⟩ := block_update m i k bytes
    refine ⟨hsector, honly, ?_⟩
    rw [update_self]
    exact hdecodes

/-- A medium with the directory of one namespace, which holds no rows. -/
def storedBlocks : ℕ → List UInt8 :=
  update
    (update erasedBlocks (mediaDirectoryOffset 0)
      (storeU32 (directoryBody 1 sampleConfig oneNamespace) dirSealOffset dirSealCommitted))
    (mediaDataOffset 0 0) emptySlot

theorem directory_storedBlocks (plan : List Arrival) :
    tornMedia.directory sampleConfig (storedBlocks, plan) = some oneNamespace := by
  have hfirst : tornMedia.sector (storedBlocks, plan) 0 =
      storeU32 (directoryBody 1 sampleConfig oneNamespace) dirSealOffset dirSealCommitted := by
    unfold storedBlocks tornMedia
    dsimp only
    rw [update_of_ne (mediaDirectoryOffset_ne 0 0 0), update_self]
  have hsecond : tornMedia.sector (storedBlocks, plan) 1 = List.replicate dirBytes 0xFF := by
    unfold storedBlocks tornMedia
    dsimp only
    rw [update_of_ne (mediaDirectoryOffset_ne 0 0 1), update_of_ne (by decide),
      erasedBlocks, if_pos (by decide)]
  unfold SlotMedia.directory
  rw [hfirst, hsecond, decodeDirectory_erased,
    decodeDirectory_image wellFormed_oneNamespace (by decide) (by decide), if_pos rfl]
  rfl

/-- A put and its commit, between two restarts, and a begin. -/
def sampleActs : List Act :=
  [.restart, .call (.open [65] schemaM1a), .call (.begin 9 .readWrite),
    .call (.put 5 [107] [1, 2]), .call (.commit 5 .full), .restart,
    .call (.open [65] schemaM1a), .call (.begin 9 .readOnly)]

/-- The one write of the run is cut behind its payload. -/
theorem sample_commit_atomic :
    Run (tornMedia.rows oneNamespace (storedBlocks, [.payload]))
        (observed (next tornPort sampleConfig .hostModel) (sees tornPort)
          { media := (storedBlocks, [.payload]) } sampleActs)
        (tornMedia.rows oneNamespace
          (sampleActs.foldl (next tornPort sampleConfig .hostModel)
            { media := (storedBlocks, [.payload]) }).media) ∧
      tornMedia.directory sampleConfig (sampleActs.foldl (next tornPort sampleConfig .hostModel)
        { media := (storedBlocks, [.payload]) }).media = some oneNamespace := by
  have hknown : ∀ act ∈ sampleActs, act.Known sampleConfig oneNamespace := by
    simp only [sampleActs, List.forall_mem_cons, Act.Known]
    exact ⟨trivial, ⟨0, by decide, rfl, rfl⟩, trivial, trivial, trivial, trivial,
      ⟨0, by decide, rfl, rfl⟩, trivial, nofun⟩
  have hrun := commits_atomic tornMedia .hostModel (directory_storedBlocks [.payload]) sampleActs
    hknown
  exact ⟨hrun.1, hrun.2.1⟩

end Ninlil.EspStorage
