import Mathlib.Data.List.Basic

/-!
# Frames from a stream

A stream is a sequence of frames, one after the other; its reader is given it in chunks that end
anywhere.

* `Reader`: what was read but not delivered, and the frames due;
* `Reader.feed`: a chunk is taken, and the next frame delivered once it is whole;
* `Reader.Reads.feed`: no byte is lost;
* `complete`: the frames that are whole within a number of bytes;
* `Reader.feedAll_complete`, `Reader.drain`: however the stream is cut, feeding it and then nothing
  until nothing is delivered gives the frames that are whole.
-/

namespace Ninlil.Framing

variable {α : Type}

/-- The frames whose last byte is within the first `length`. -/
def complete : ℕ → List (List α) → List (List α)
  | _, [] => []
  | length, f :: due => if f.length ≤ length then f :: complete (length - f.length) due else []

theorem complete_all {due : List (List α)} {length : ℕ} (h : due.flatten.length ≤ length) :
    complete length due = due := by
  induction due generalizing length with
  | nil => rfl
  | cons f due ih =>
    rw [List.flatten_cons, List.length_append] at h
    rw [complete, if_pos (by omega), ih (by omega)]

/-- What was read but not delivered, and the frames that are still due. -/
structure Reader (α : Type) where
  held : List α
  due : List (List α)

/-- A chunk is taken; the next frame is delivered if it is whole. -/
def Reader.feed (r : Reader α) (chunk : List α) : Option (List α) × Reader α :=
  match r.due with
  | [] => (none, { r with held := r.held ++ chunk })
  | f :: due =>
    if f.length ≤ (r.held ++ chunk).length then (some f, ⟨(r.held ++ chunk).drop f.length, due⟩)
    else (none, { r with held := r.held ++ chunk })

/-- One chunk after the other. -/
def Reader.feedAll (r : Reader α) : List (List α) → List (Option (List α)) × Reader α
  | [] => ([], r)
  | chunk :: chunks =>
    let fed := r.feed chunk
    let rest := fed.2.feedAll chunks
    (fed.1 :: rest.1, rest.2)

theorem Reader.feedAll_cons (r : Reader α) (chunk : List α) (chunks : List (List α)) :
    r.feedAll (chunk :: chunks) =
      ((r.feed chunk).1 :: ((r.feed chunk).2.feedAll chunks).1,
        ((r.feed chunk).2.feedAll chunks).2) := rfl

/-- What was read and what will be read are the frames due. -/
def Reader.Reads (r : Reader α) (rest : List α) : Prop := r.held ++ rest = r.due.flatten

section Reading

variable {r : Reader α} {chunk rest : List α} {chunks : List (List α)}

/-- The next frame, once it is whole, is at the front. -/
theorem Reader.Reads.front (h : r.Reads rest) {f : List α} {due : List (List α)}
    (hdue : r.due = f :: due) (hwhole : f.length ≤ r.held.length) : r.held.take f.length = f := by
  unfold Reader.Reads at h
  rw [hdue, List.flatten_cons] at h
  have htake := congrArg (List.take f.length) h
  rwa [List.take_append_of_le_length hwhole, List.take_left] at htake

/-- What was read of the next frame is its beginning. -/
theorem Reader.Reads.begins (h : r.Reads rest) {f : List α} {due : List (List α)}
    (hdue : r.due = f :: due) {n : ℕ} (hn : n ≤ r.held.length) (hf : n ≤ f.length) :
    r.held.take n = f.take n := by
  unfold Reader.Reads at h
  rw [hdue, List.flatten_cons] at h
  have htake := congrArg (List.take n) h
  rwa [List.take_append_of_le_length hn, List.take_append_of_le_length hf] at htake

/-- A chunk that is read is the next part of the stream. -/
theorem Reader.Reads.take (h : r.Reads (chunk ++ rest)) :
    Reader.Reads { r with held := r.held ++ chunk } rest := by
  unfold Reader.Reads at h ⊢
  rw [List.append_assoc]
  exact h

/-- No byte is lost. -/
theorem Reader.Reads.feed (h : r.Reads (chunk ++ rest)) : (r.feed chunk).2.Reads rest := by
  have htaken := h.take
  unfold Reader.feed
  split
  · exact htaken
  · rename_i f due hdue
    split_ifs with hwhole
    · unfold Reader.Reads at htaken ⊢
      rw [hdue, List.flatten_cons] at htaken
      have hdrop := congrArg (List.drop f.length) htaken
      rwa [List.drop_append_of_le_length hwhole, List.drop_left] at hdrop
    · exact htaken

/-- The frames that are whole are the delivered one and those that are whole after it. -/
theorem Reader.feed_complete (r : Reader α) (chunk : List α) (n : ℕ) :
    complete (r.held.length + (chunk.length + n)) r.due =
      (r.feed chunk).1.toList ++
        complete ((r.feed chunk).2.held.length + n) (r.feed chunk).2.due := by
  unfold Reader.feed
  split
  · rename_i hdue
    rw [hdue]
    rfl
  · rename_i f due hdue
    split_ifs with hwhole
    · rw [List.length_append] at hwhole
      have hleft : r.held.length + (chunk.length + n) - f.length =
          ((r.held ++ chunk).drop f.length).length + n := by
        rw [List.length_drop, List.length_append]
        omega
      rw [hdue, complete, if_pos (by omega), hleft]
      rfl
    · rw [hdue, List.length_append, Nat.add_assoc]
      rfl

/-- The frames that a stream in chunks delivers, and those that are whole after it. -/
theorem Reader.feedAll_complete (r : Reader α) (chunks : List (List α)) :
    complete (r.held.length + chunks.flatten.length) r.due =
      (r.feedAll chunks).1.reduceOption ++
        complete (r.feedAll chunks).2.held.length (r.feedAll chunks).2.due := by
  induction chunks generalizing r with
  | nil => rfl
  | cons chunk chunks ih =>
    rw [List.flatten_cons, List.length_append, r.feed_complete chunk, ih, Reader.feedAll_cons]
    cases (r.feed chunk).1 with
    | none | some => rfl

theorem Reader.Reads.feedAll (h : r.Reads (chunks.flatten ++ rest)) :
    (r.feedAll chunks).2.Reads rest := by
  induction chunks generalizing r with
  | nil => exact h
  | cons chunk chunks ih =>
    rw [List.flatten_cons, List.append_assoc] at h
    exact ih h.feed

/-- Feeds of nothing read nothing. -/
theorem Reader.Reads.drained (h : r.Reads rest) (m : ℕ) :
    (r.feedAll (List.replicate m [])).2.Reads rest := by
  refine Reader.Reads.feedAll ?_
  rw [List.flatten_replicate_nil]
  exact h

/-- Nothing is delivered of a frame that is not whole. -/
theorem Reader.feed_none_iff (r : Reader α) :
    (r.feed []).1 = none ↔ complete r.held.length r.due = [] := by
  unfold Reader.feed
  split
  · rename_i hdue
    rw [hdue]
    exact iff_of_true rfl rfl
  · rename_i f due hdue
    rw [hdue, List.append_nil, complete]
    split_ifs
    · exact iff_of_false nofun nofun
    · exact iff_of_true rfl rfl

/-- **Draining.** Fed nothing, the reader delivers the whole frames it holds, one at a time, and
then nothing. -/
theorem Reader.drain (r : Reader α) :
    ∃ m, (∀ a ∈ (r.feedAll (List.replicate m [])).1, a ≠ none) ∧
      (r.feedAll (List.replicate m [])).1.reduceOption = complete r.held.length r.due ∧
      ((r.feedAll (List.replicate m [])).2.feed []).1 = none := by
  induction hn : (complete r.held.length r.due).length generalizing r with
  | zero =>
    have hnil := List.eq_nil_of_length_eq_zero hn
    exact ⟨0, fun a ha => absurd ha (by simp [Reader.feedAll]), by rw [hnil]; rfl,
      r.feed_none_iff.2 hnil⟩
  | succ n ih =>
    have hsome : (r.feed []).1 ≠ none := by
      rw [Ne, r.feed_none_iff]
      intro hnil
      rw [hnil] at hn
      exact absurd hn (by simp)
    obtain ⟨f, hf⟩ := Option.ne_none_iff_exists'.1 hsome
    have hsplit := r.feed_complete [] 0
    rw [hf] at hsplit
    simp only [List.length_nil, Nat.add_zero, Option.toList_some, List.singleton_append] at hsplit
    rw [hsplit, List.length_cons] at hn
    obtain ⟨m, hall, heq, hnone⟩ := ih (r.feed []).2 (Nat.succ.inj hn)
    refine ⟨m + 1, ?_, ?_, hnone⟩
    · intro a ha
      rcases List.mem_cons.1 ha with rfl | ha
      · exact hsome
      · exact hall a ha
    · rw [hsplit, ← heq, List.replicate_succ, Reader.feedAll_cons, hf]
      rfl

end Reading
end Ninlil.Framing
