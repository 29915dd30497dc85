import HtmlMarkdown.Proofs.Convert.BatchSize
import Mathlib.Algebra.Order.Floor.Div

/-!
# Batches

A batch converts its sources chunk by chunk, and each call of `next?` takes one chunk off
(`chunksLeft_of_next?`). `Batch.Yields` is a run of such calls; the chunks that it yields lie side
by side and fill the row of sources, so that what becomes of the chunks one after the other is what
becomes of the sources one after the other (`Yields.foldlM_eq`).

* `InTurn`: the results of a row in order, or the error of the first that fails.
* `Batch.yields_results`: **a batch comes to an end**, and `results` is all of it.
* `batch_transparent`: **chunks make no difference.**
-/

namespace HtmlMarkdown

/-! ## One after the other -/

section InTurn

variable {α β ε : Type} {f : α → Except ε β} {as before after : List α} {bs : List β} {a : α}
variable {e : ε} {r : Except ε (List β)}

/-- What comes of a row: all results in order, or the error of the first element that fails. -/
inductive InTurn (f : α → Except ε β) : List α → Except ε (List β) → Prop where
  | all {as : List α} {bs : List β} : List.Forall₂ (fun a b => f a = .ok b) as bs →
      InTurn f as (.ok bs)
  | fails {a : α} {bs : List β} {e : ε} (before after : List α) :
      List.Forall₂ (fun a b => f a = .ok b) before bs → f a = .error e →
      InTurn f (before ++ a :: after) (.error e)

theorem mapM_of_forall₂ (h : List.Forall₂ (fun a b => f a = .ok b) as bs) :
    as.mapM f = .ok bs := by
  induction h with
  | nil => rfl
  | cons hab _ ih =>
    rw [List.mapM_cons, hab, ih]
    rfl

theorem mapM_congr {g : α → Except ε β} (h : ∀ a ∈ as, f a = g a) : as.mapM f = as.mapM g := by
  induction as with
  | nil => rfl
  | cons a as ih =>
    have htail := ih fun a' ha' => h a' (List.mem_cons_of_mem a ha')
    rw [List.mapM_cons, List.mapM_cons, h a List.mem_cons_self, htail]

theorem inTurn_mapM (f : α → Except ε β) : ∀ as : List α, InTurn f as (as.mapM f) := by
  intro as
  induction as with
  | nil => exact InTurn.all List.Forall₂.nil
  | cons a as ih =>
    rw [List.mapM_cons]
    cases ha : f a with
    | error e => exact InTurn.fails [] as List.Forall₂.nil ha
    | ok b =>
      generalize hr : as.mapM f = r at ih
      cases ih with
      | all h => exact InTurn.all (List.Forall₂.cons ha h)
      | fails before after h he =>
        exact InTurn.fails (a :: before) after (List.Forall₂.cons ha h) he

/-- There is one such outcome. -/
theorem inTurn_iff : InTurn f as r ↔ as.mapM f = r := by
  constructor
  · intro h
    cases h with
    | all h => exact mapM_of_forall₂ h
    | fails before after h he =>
      rw [List.mapM_append, mapM_of_forall₂ h, List.mapM_cons, he]
      rfl
  · rintro rfl
    exact inTurn_mapM f as

end InTurn

namespace Batch

variable {b b' last : Batch} {r : Except Error (List Conversion)}
variable {items : List (Nat × Except Error (List Conversion))} {i hint fuel : Nat}

/-! ## Taking a chunk -/

theorem chunkSize_pos (b : Batch) : 0 < b.chunkSize := by
  unfold chunkSize
  omega

theorem chunksLeft_eq (b : Batch) : b.chunksLeft = b.remaining.length ⌈/⌉ b.chunkSize :=
  (Nat.ceilDiv_eq_add_pred_div _ _).symm

theorem next?_eq_none_iff : b.next? = none ↔ b.remaining = [] := by
  unfold next?
  rw [← List.isEmpty_iff]
  split <;> simp_all

/-- What a call does to a batch that has sources left. -/
theorem next?_eq_some (h : b.next? = some (r, b')) :
    b.remaining ≠ [] ∧ r = (b.remaining.take b.chunkSize).mapM b.service.convert ∧
      b' = { b with remaining := b.remaining.drop b.chunkSize } := by
  unfold next? at h
  split at h
  · cases h
  · rename_i hne
    cases h
    exact ⟨fun h => hne (List.isEmpty_iff.2 h), rfl, rfl⟩

theorem chunksLeft_eq_zero_iff : b.chunksLeft = 0 ↔ b.remaining = [] := by
  rw [chunksLeft_eq, ← Nat.le_zero, ceilDiv_le_iff_le_mul b.chunkSize_pos, Nat.mul_zero,
    Nat.le_zero, List.length_eq_zero_iff]

theorem ceilDiv_sub {n k : Nat} (hk : 0 < k) (hn : 0 < n) : n ⌈/⌉ k = (n - k) ⌈/⌉ k + 1 := by
  refine eq_of_forall_ge_iff fun c => ?_
  rw [ceilDiv_le_iff_le_mul hk]
  cases c with
  | zero => omega
  | succ c =>
    have hmul : k * (c + 1) = k * c + k := Nat.mul_succ k c
    rw [Nat.add_le_add_iff_right, ceilDiv_le_iff_le_mul hk]
    omega

/-- **Each call takes one chunk off.** -/
theorem chunksLeft_of_next? (h : b.next? = some (r, b')) : b.chunksLeft = b'.chunksLeft + 1 := by
  obtain ⟨hne, -, rfl⟩ := next?_eq_some h
  rw [chunksLeft_eq, chunksLeft_eq, List.length_drop]
  exact ceilDiv_sub b.chunkSize_pos (List.length_pos_iff.2 hne)

/-! ## Runs -/

/-- `b.Yields items last`: calls in a row, from `b` to `last`, have yielded the items, each with the
number of chunks that were left before it. -/
inductive Yields : Batch → List (Nat × Except Error (List Conversion)) → Batch → Prop where
  | refl (b : Batch) : Yields b [] b
  | next {b b' last : Batch} {r : Except Error (List Conversion)}
      {items : List (Nat × Except Error (List Conversion))} :
      b.next? = some (r, b') → Yields b' items last → Yields b ((b.chunksLeft, r) :: items) last

/-- **A batch comes to an end**, and `results` has all that it yields. -/
theorem yields_resultsTo : ∀ {fuel : Nat} {b : Batch}, b.chunksLeft ≤ fuel →
    ∃ last, b.Yields (resultsTo fuel b) last ∧ last.next? = none := by
  intro fuel
  induction fuel with
  | zero =>
    intro b h
    have hnone : b.next? = none := next?_eq_none_iff.2 (chunksLeft_eq_zero_iff.1 (by omega))
    exact ⟨b, Yields.refl b, hnone⟩
  | succ fuel ih =>
    intro b h
    unfold resultsTo
    cases hnext : b.next? with
    | none => exact ⟨b, Yields.refl b, hnext⟩
    | some taken =>
      obtain ⟨r, b'⟩ := taken
      have hstep := chunksLeft_of_next? hnext
      obtain ⟨last, hrun, hend⟩ := ih (b := b') (by omega)
      exact ⟨last, Yields.next hnext hrun, hend⟩

theorem yields_results (b : Batch) : ∃ last, b.Yields b.results last ∧ last.next? = none := by
  refine yields_resultsTo ?_
  -- no chunk is empty, so there are no more chunks than sources
  rw [chunksLeft_eq, ceilDiv_le_iff_le_mul b.chunkSize_pos]
  exact Nat.le_mul_of_pos_left _ b.chunkSize_pos

theorem Yields.length (h : b.Yields items last) : b.chunksLeft = items.length + last.chunksLeft := by
  induction h with
  | refl b => rw [List.length_nil, Nat.zero_add]
  | next hnext _ ih =>
    rw [chunksLeft_of_next? hnext, ih, List.length_cons]
    omega

/-- **The items of a run**: the chunks lie side by side. -/
theorem Yields.item (h : b.Yields items last) (hi : items[i]? = some (hint, r)) :
    hint + i = b.chunksLeft ∧
      r = ((b.remaining.drop (i * b.chunkSize)).take b.chunkSize).mapM b.service.convert := by
  induction h generalizing i with
  | refl b => cases hi
  | @next b b' last r' items hnext _ ih =>
    obtain ⟨-, hr, hb'⟩ := next?_eq_some hnext
    cases i with
    | zero =>
      cases hi
      rw [Nat.zero_mul, List.drop_zero]
      exact ⟨rfl, hr⟩
    | succ i =>
      obtain ⟨hhint, hrest⟩ := ih hi
      have hstep := chunksLeft_of_next? hnext
      refine ⟨by omega, ?_⟩
      have hpast : b.chunkSize + i * b.chunkSize = (i + 1) * b.chunkSize := by
        rw [Nat.succ_mul, Nat.add_comm]
      rw [hrest, hb', List.drop_drop]
      change ((b.remaining.drop (b.chunkSize + i * b.chunkSize)).take b.chunkSize).mapM _ = _
      rw [hpast]

/-- **A run to the end**, its results put together, is a single pass over the sources. -/
theorem Yields.foldlM_eq (h : b.Yields items last) (hend : last.next? = none) :
    ∀ done : List Conversion, items.foldlM (fun done r => do return done ++ (← r.2)) done =
      (do return done ++ (← b.remaining.mapM b.service.convert)) := by
  induction h with
  | refl b =>
    intro done
    rw [next?_eq_none_iff.1 hend, List.foldlM_nil, List.mapM_nil, pure_bind, List.append_nil]
  | @next b b' last r items hnext _ ih =>
    intro done
    obtain ⟨-, hr, rfl⟩ := next?_eq_some hnext
    have hsplit : b.remaining.mapM b.service.convert = (do
        return (← r) ++ (← (b.remaining.drop b.chunkSize).mapM b.service.convert)) := by
      rw [hr, ← List.mapM_append, List.take_append_drop]
    rw [List.foldlM_cons, hsplit]
    cases r with
    | error e => rfl
    | ok conversions =>
      have hrest := ih hend (done ++ conversions)
      simp only [bind_assoc, pure_bind, List.append_assoc] at hrest ⊢
      exact hrest

end Batch

/-! ## The batch of a service -/

namespace Service

variable {s s' : Service} {sources : List Text}

/-- The `i`-th chunk. -/
theorem take_drop_eq_extract (sources : List Text) (i k : Nat) :
    (sources.drop (i * k)).take k =
      sources.extract (i * k) (min ((i + 1) * k) sources.length) := by
  have hnext : (i + 1) * k = i * k + k := Nat.succ_mul i k
  rw [List.extract_eq_take_drop, List.take_eq_take_iff, List.length_drop]
  omega

theorem convertBatch_eq (s : Service) (sources : List Text) :
    s.convertBatch sources = sources.mapM s.convert := by
  obtain ⟨last, hrun, hend⟩ := (s.batch sources).yields_results
  have hfold := hrun.foldlM_eq hend []
  simp only [List.nil_append, bind_pure] at hfold
  exact hfold

theorem convertBatch_congr (h : ∀ t ∈ sources, s.convert t = s'.convert t) :
    s.convertBatch sources = s'.convertBatch sources := by
  rw [convertBatch_eq, convertBatch_eq, mapM_congr h]

/-- **Chunks make no difference.** -/
theorem batch_transparent (s : Service) (sources : List Text) :
    let n := sources.length
    let k := max s.options.batchSize 1
    let items := (s.batch sources).results
    -- the batch ends, after as many items as there are chunks
    (∃ last, (s.batch sources).Yields items last ∧ last.next? = none ∧ last.chunksLeft = 0) ∧
    items.length = n ⌈/⌉ k ∧
    -- each item comes with the number of those left, and is what becomes of its own chunk
    (∀ i < n ⌈/⌉ k, ∃ r, items[i]? = some (n ⌈/⌉ k - i, r) ∧
      InTurn s.convert (sources.extract (i * k) (min ((i + 1) * k) n)) r) ∧
    -- the whole is what becomes of the sources, whatever the chunks
    InTurn s.convert sources (s.convertBatch sources) ∧
    (∀ s' : Service, (∀ t ∈ sources, s'.convert t = s.convert t) →
      s'.convertBatch sources = s.convertBatch sources) ∧
    (s.rules.IgnoresBatchSize → ∀ size,
      (s.withBatchSize size).convertBatch sources = s.convertBatch sources) := by
  intro n k items
  obtain ⟨last, hrun, hend⟩ : ∃ last, (s.batch sources).Yields items last ∧ last.next? = none :=
    (s.batch sources).yields_results
  have hlast : last.chunksLeft = 0 := by
    rw [Batch.chunksLeft_eq_zero_iff]
    exact Batch.next?_eq_none_iff.1 hend
  have htotal : (s.batch sources).chunksLeft = n ⌈/⌉ k := (s.batch sources).chunksLeft_eq
  have hlength : items.length = n ⌈/⌉ k := by
    have := hrun.length
    omega
  refine ⟨⟨last, hrun, hend, hlast⟩, hlength, ?_, ?_, fun _ => convertBatch_congr, ?_⟩
  · intro i hi
    obtain ⟨⟨hint, r⟩, hitem⟩ : ∃ item, items[i]? = some item :=
      ⟨_, List.getElem?_eq_getElem (by omega)⟩
    obtain ⟨hhint, hr⟩ := hrun.item hitem
    obtain rfl : hint = n ⌈/⌉ k - i := by omega
    refine ⟨r, hitem, ?_⟩
    rw [inTurn_iff, ← take_drop_eq_extract]
    exact hr.symm
  · rw [inTurn_iff, convertBatch_eq]
  · intro h size
    exact convertBatch_congr fun t _ => convert_withBatchSize h size t

/-- A blank source fails its chunk, and the whole in chunks of any size. -/
theorem batch_transparent_blank :
    let rules := RuleBook.ofHistory [("link", RuleBook.bareLink)]
    let s : Service := { options := { batchSize := 0 }, rules := rules }
    let sources := [" ".toList, "a".toList]
    let blank := Error.invalidInput "HTML input is empty"
    (s.batch sources).results[0]? = some (2, .error blank) ∧
      s.convertBatch sources = .error blank ∧ s.rules.IgnoresBatchSize ∧
      (s.withBatchSize 2).convertBatch sources = .error blank := by
  intro rules s sources blank
  obtain ⟨-, -, hitem, hall, -, hsize⟩ := batch_transparent s sources
  have hblank : s.convert " ".toList = .error blank := rfl
  have hfirst : InTurn s.convert [" ".toList] (.error blank) := InTurn.fails [] [] .nil hblank
  have hfails : InTurn s.convert sources (.error blank) := InTurn.fails [] _ .nil hblank
  have hignores : s.rules.IgnoresBatchSize := by
    refine RuleBook.ignoresBatchSize_ofHistory fun e he => ?_
    obtain rfl := List.mem_singleton.1 he
    exact fun _ _ _ _ => rfl
  have hwhole : s.convertBatch sources = .error blank :=
    (inTurn_iff.1 hall).symm.trans (inTurn_iff.1 hfails)
  have htotal : sources.length ⌈/⌉ max s.options.batchSize 1 = 2 := by decide
  obtain ⟨r, hr, hturn⟩ := hitem 0 (by omega)
  rw [htotal] at hr
  obtain rfl : r = .error blank := (inTurn_iff.1 hturn).symm.trans (inTurn_iff.1 hfirst)
  exact ⟨hr, hwhole, hignores, (hsize hignores 2).trans hwhole⟩

end Service

end HtmlMarkdown
