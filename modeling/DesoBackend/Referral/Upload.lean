import DesoBackend.Referral.Csv
import Mathlib.Data.UInt

/-!
# Uploading a referral CSV

`AdminUploadReferralCSV` after its form, token and file checks: every row needs 11 columns,
the first row must be `ReferralCSVHeaders`, and each later row goes through
`updateOrCreateReferralInfoFromCSVRow`, the loop stopping at the first failure. Each row draws its own random bytes
and reads the clock again. A successful upload is a run of `AdminStep.csvRow` steps, so the
referral index invariant holds after it, and its counts are the data rows with an empty and with
an 8-character hash cell. The column check lets rows of 11 and 12 columns through, and the row
reader indexes both past their end: every such row fails the upload, one of 12 columns after
its record is written.
-/

namespace DesoBackend

structure AdminUploadReferralCSVResponse where
  LinksCreated : UInt64
  LinksUpdated : UInt64

/-- The environment of the row at `rowIdx`: each call of `generateNewReferralHash` draws new
random bytes, whose Base58 text is `randBase58 rowIdx`, and `time.Now()` reads `now rowIdx`. -/
def rowEnv (env : RequestEnv) (randBase58 : Nat → Bytes) (now : Nat → UInt64) (rowIdx : Nat) :
    RequestEnv :=
  { env with randBase58 := randBase58 rowIdx, now := now rowIdx }

/-- `row[CSVColumnReferralHash]`; the cell exists once the row has 11 columns. -/
def referralHashCell (row : List Bytes) : Bytes := (row.get? CSVColumnReferralHash).getD []

/-- The body of the row loop of `AdminUploadReferralCSV` at `rowIdx`, given the counts so far.
`TrimSpace` is `strings.TrimSpace`. -/
def uploadReferralCSVRow (P : ReferralPrefixes) (env : RequestEnv) (TrimSpace : Bytes → Bytes)
    (res : AdminUploadReferralCSVResponse) (rowIdx : Nat) (row : List Bytes) :
    ReferralM AdminUploadReferralCSVResponse :=
  if row.length < 11 then
    throw (.error ("AdminUploadReferralCSV: Unexpected number of columns (" ++
      toString row.length ++ ") at rowIdx " ++ toString rowIdx))
  else
    let row := row.map TrimSpace
    if rowIdx = 0 then
      if row = ReferralCSVHeaders then pure res
      else throw (.error "AdminUploadReferralCSV: Unexpected column headers")
    else
      let referralHash := referralHashCell row
      if referralHash.length ≠ 8 ∧ referralHash.length ≠ 0 then
        throw (.error ("AdminUploadReferralCSV: Unexpected referralHash length (" ++
          toString referralHash.length ++ ") at rowIdx " ++ toString rowIdx))
      else do
        wrapError ("AdminUploadReferralCSV: Problem updating idx " ++ toString rowIdx ++ ": ") <|
          updateOrCreateReferralInfoFromCSVRow P env row
        if referralHash.length = 0 then pure { res with LinksCreated := res.LinksCreated + 1 }
        else pure { res with LinksUpdated := res.LinksUpdated + 1 }

/-- The row loop of `AdminUploadReferralCSV` from the row at `rowIdx` on. -/
def uploadReferralCSVRows (P : ReferralPrefixes) (env : RequestEnv) (TrimSpace : Bytes → Bytes)
    (randBase58 : Nat → Bytes) (now : Nat → UInt64) :
    AdminUploadReferralCSVResponse → Nat → List (List Bytes) →
      ReferralM AdminUploadReferralCSVResponse
  | res, _, [] => pure res
  | res, rowIdx, row :: rows => do
    let res ← uploadReferralCSVRow P (rowEnv env randBase58 now rowIdx) TrimSpace res rowIdx row
    uploadReferralCSVRows P env TrimSpace randBase58 now res (rowIdx + 1) rows

/-- `AdminUploadReferralCSV` on the rows `csv.NewReader(file).ReadAll()` returns. -/
def AdminUploadReferralCSV (P : ReferralPrefixes) (env : RequestEnv) (TrimSpace : Bytes → Bytes)
    (randBase58 : Nat → Bytes) (now : Nat → UInt64) (rows : List (List Bytes)) :
    ReferralM AdminUploadReferralCSVResponse :=
  uploadReferralCSVRows P env TrimSpace randBase58 now ⟨0, 0⟩ 0 rows

section Upload

variable {P : ReferralPrefixes} {env : RequestEnv} {TrimSpace : Bytes → Bytes}
  {randBase58 : Nat → Bytes} {now : Nat → UInt64}
  {res res' : AdminUploadReferralCSVResponse} {rowIdx : Nat} {row : List Bytes}
  {st st' : GlobalState}

/-- A row the loop gets through has 11 columns. It is the header row, which writes and counts
nothing, or a data row whose hash cell is empty or has 8 characters: the row is applied by
`updateOrCreateReferralInfoFromCSVRow` and counted as a created or an updated link. -/
lemma uploadReferralCSVRow_eq_ok
    (h : uploadReferralCSVRow P env TrimSpace res rowIdx row st = .ok res' st') :
    11 ≤ row.length ∧
      ((rowIdx = 0 ∧ row.map TrimSpace = ReferralCSVHeaders ∧ res' = res ∧ st' = st) ∨
        (0 < rowIdx ∧ updateOrCreateReferralInfoFromCSVRow P env (row.map TrimSpace) st =
            .ok () st' ∧
          ((referralHashCell (row.map TrimSpace)).length = 0 ∧
              res' = { res with LinksCreated := res.LinksCreated + 1 } ∨
            (referralHashCell (row.map TrimSpace)).length = 8 ∧
              res' = { res with LinksUpdated := res.LinksUpdated + 1 }))) := by
  unfold uploadReferralCSVRow at h
  split at h
  · cases h
  refine ⟨by omega, ?_⟩
  dsimp only at h
  split at h
  · split at h
    · cases h
      exact .inl ⟨‹_›, ‹_›, rfl, rfl⟩
    · cases h
  · split at h
    · cases h
    · obtain ⟨u, s, hw, hk⟩ := bind_eq_ok.mp h
      refine .inr ⟨Nat.pos_of_ne_zero ‹_›, ?_⟩
      split at hk <;> cases hk
      · exact ⟨wrapError_eq_ok.mp hw, .inl ⟨‹_›, rfl⟩⟩
      · exact ⟨wrapError_eq_ok.mp hw, .inr ⟨by omega, rfl⟩⟩

lemma rowAt_eq_ok {row : List Bytes} {i : Nat} {cell : Bytes} (h : rowAt row i = .ok cell) :
    i < row.length := by
  unfold rowAt at h
  split at h
  · exact (List.get?_eq_some.mp ‹_›).1
  · cases h

/-- A row `updateOrCreateReferralInfoFromCSVRow` applies has an active column, the 13th. -/
lemma length_of_updateOrCreateReferralInfoFromCSVRow
    (h : updateOrCreateReferralInfoFromCSVRow P env row st = .ok () st') : 13 ≤ row.length := by
  obtain ⟨_, _, -, ha, -⟩ := updateOrCreateReferralInfoFromCSVRow_eq_ok h
  obtain ⟨cell, hc, -⟩ := exceptBind_eq_ok.mp ha
  exact rowAt_eq_ok hc

/-- A row the loop gets through has 13 columns: the header row is `ReferralCSVHeaders`, and a
data row is applied. -/
lemma length_of_uploadReferralCSVRow
    (h : uploadReferralCSVRow P env TrimSpace res rowIdx row st = .ok res' st') :
    13 ≤ row.length := by
  rcases (uploadReferralCSVRow_eq_ok h).2 with ⟨-, hh, -⟩ | ⟨-, hu, -⟩
  · rw [← List.length_map row TrimSpace, hh]
    rfl
  · simpa using length_of_updateOrCreateReferralInfoFromCSVRow hu

lemma uploadReferralCSVRow_steps
    (h : uploadReferralCSVRow P env TrimSpace res rowIdx row st = .ok res' st') :
    Relation.ReflTransGen (AdminStep P) st st' := by
  rcases (uploadReferralCSVRow_eq_ok h).2 with ⟨-, -, -, rfl⟩ | ⟨-, hu, -⟩
  · exact .refl
  · exact .single (.csvRow _ _ hu)

lemma uploadReferralCSVRows_eq_ok {rows : List (List Bytes)} {r : AdminUploadReferralCSVResponse}
    (h : uploadReferralCSVRows P env TrimSpace randBase58 now res rowIdx rows st = .ok r st') :
    Relation.ReflTransGen (AdminStep P) st st' ∧ ∀ row ∈ rows, 13 ≤ row.length := by
  induction rows generalizing res rowIdx st with
  | nil =>
    cases h
    exact ⟨.refl, fun _ => nofun⟩
  | cons row rows ih =>
    obtain ⟨res₁, s, h₁, h₂⟩ := bind_eq_ok.mp h
    obtain ⟨hrun, hlen⟩ := ih h₂
    refine ⟨(uploadReferralCSVRow_steps h₁).trans hrun, ?_⟩
    rintro _ (_ | ⟨_, hm⟩)
    · exact length_of_uploadReferralCSVRow h₁
    · exact hlen _ hm

/-- A successful upload is a run of `AdminStep.csvRow` steps, one a data row: the step relation
that `Reachable` closes over covers every upload. -/
theorem AdminUploadReferralCSV_steps {rows : List (List Bytes)}
    {r : AdminUploadReferralCSVResponse}
    (h : AdminUploadReferralCSV P env TrimSpace randBase58 now rows st = .ok r st') :
    Relation.ReflTransGen (AdminStep P) st st' :=
  (uploadReferralCSVRows_eq_ok h).1

lemma uint64_ofNat_succ (n : Nat) : UInt64.ofNat (n + 1) = UInt64.ofNat n + 1 := by
  apply UInt64.eq_of_toBitVec_eq
  show BitVec.ofNat 64 (n + 1) = BitVec.ofNat 64 n + 1#64
  apply BitVec.eq_of_toNat_eq
  simp only [BitVec.toNat_ofNat, BitVec.toNat_add]
  omega

/-- The data rows from `rowIdx ≥ 1` on each have an empty or an 8-character hash cell, and each
adds one created link or one updated link. -/
lemma uploadReferralCSVRows_counts {rows : List (List Bytes)} {r : AdminUploadReferralCSVResponse}
    (hidx : 0 < rowIdx)
    (h : uploadReferralCSVRows P env TrimSpace randBase58 now res rowIdx rows st = .ok r st') :
    (∀ row ∈ rows, (referralHashCell (row.map TrimSpace)).length = 0 ∨
      (referralHashCell (row.map TrimSpace)).length = 8) ∧
    r = ⟨res.LinksCreated +
        UInt64.ofNat (rows.countP fun row => (referralHashCell (row.map TrimSpace)).isEmpty),
      res.LinksUpdated +
        UInt64.ofNat (rows.countP fun row => !(referralHashCell (row.map TrimSpace)).isEmpty)⟩ := by
  induction rows generalizing res rowIdx st with
  | nil =>
    cases h
    exact ⟨fun _ => nofun, by simp⟩
  | cons row rows ih =>
    obtain ⟨res₁, s, h₁, h₂⟩ := bind_eq_ok.mp h
    obtain ⟨hlen, hr⟩ := ih (Nat.succ_pos rowIdx) h₂
    rcases (uploadReferralCSVRow_eq_ok h₁).2 with ⟨h0, -⟩ | ⟨-, -, ⟨hl, rfl⟩ | ⟨hl, rfl⟩⟩
    · omega
    · have he : (referralHashCell (row.map TrimSpace)).isEmpty = true :=
        List.isEmpty_iff_length_eq_zero.mpr hl
      refine ⟨List.forall_mem_cons.mpr ⟨.inl hl, hlen⟩, ?_⟩
      rw [hr, List.countP_cons, List.countP_cons, he]
      simp only [if_true, Bool.not_true, Bool.false_eq_true, if_false, add_zero,
        uint64_ofNat_succ, add_assoc, add_comm (1 : UInt64)]
    · have he : (referralHashCell (row.map TrimSpace)).isEmpty = false :=
        List.isEmpty_eq_false.mpr (List.ne_nil_of_length_pos (by omega))
      refine ⟨List.forall_mem_cons.mpr ⟨.inr hl, hlen⟩, ?_⟩
      rw [hr, List.countP_cons, List.countP_cons, he]
      simp only [if_true, Bool.not_false, Bool.false_eq_true, if_false, add_zero,
        uint64_ofNat_succ, add_assoc, add_comm (1 : UInt64)]

/-- The response of a successful upload counts its data rows, the rows after the header: the
rows with an empty hash cell as created links, the others as updated links, modulo `2^64`.
Each data row's hash cell is empty or has 8 characters, and the header row is
`ReferralCSVHeaders` once trimmed. -/
theorem AdminUploadReferralCSV_counts {rows : List (List Bytes)}
    {r : AdminUploadReferralCSVResponse}
    (h : AdminUploadReferralCSV P env TrimSpace randBase58 now rows st = .ok r st') :
    (∀ header ∈ rows.head?, header.map TrimSpace = ReferralCSVHeaders) ∧
    (∀ row ∈ rows.tail, (referralHashCell (row.map TrimSpace)).length = 0 ∨
      (referralHashCell (row.map TrimSpace)).length = 8) ∧
    r = ⟨UInt64.ofNat (rows.tail.countP fun row => (referralHashCell (row.map TrimSpace)).isEmpty),
      UInt64.ofNat (rows.tail.countP fun row => !(referralHashCell (row.map TrimSpace)).isEmpty)⟩ := by
  cases rows with
  | nil =>
    cases h
    exact ⟨nofun, nofun, rfl⟩
  | cons header rows =>
    obtain ⟨res₁, s, h₁, h₂⟩ := bind_eq_ok.mp h
    rcases (uploadReferralCSVRow_eq_ok h₁).2 with ⟨-, hh, rfl, rfl⟩ | ⟨h0, -⟩
    · obtain ⟨hlen, hr⟩ := uploadReferralCSVRows_counts Nat.one_pos h₂
      refine ⟨fun _ hm => Option.mem_some_iff.mp hm ▸ hh, hlen, ?_⟩
      rw [hr]
      simp only [zero_add]
      rfl
    · exact absurd h0 (lt_irrefl 0)

end Upload

/-- Three rows on the empty store: the header, a new link for the key `pk` under the hash
`abcdefgh` that every row draws, and an update of that link to amounts of one, made inactive. -/
def sampleUploadRows : List (List Bytes) :=
  [ReferralCSVHeaders,
    ["", "", "pk", "0", "0", "0", "false", "", "", "", "", "", "true"].map String.data,
    ["abcdefgh", "", "pk", "1", "1", "1", "false", "", "", "", "", "", "false"].map String.data]

/-- The store the upload of `sampleUploadRows` leaves: the updated record, inactive. -/
def sampleUploadStore : GlobalState :=
  ((∅ : GlobalState).insert (GlobalStateKeyForReferralHashToReferralInfo samplePrefixes
      "abcdefgh".data)
    (.referralInfo ⟨"abcdefgh".data, samplePKID 'p', 1, 1, 1, false, 0, 0, 0, 0, 0⟩)).insert
    (GlobalStateKeyForPKIDReferralHashToIsActive samplePrefixes (samplePKID 'p') "abcdefgh".data)
    (.bytes [BoolToByte false])

lemma AdminUploadReferralCSV_sampleUploadRows :
    AdminUploadReferralCSV samplePrefixes (sampleEnv 'p' false) id (fun _ => "abcdefgh".data)
      (fun _ => 0) sampleUploadRows ∅ = .ok ⟨1, 1⟩ sampleUploadStore := rfl

theorem AdminUploadReferralCSV_counts_sample :
    AdminUploadReferralCSV samplePrefixes (sampleEnv 'p' false) id (fun _ => "abcdefgh".data)
        (fun _ => 0) sampleUploadRows ∅ = .ok ⟨1, 1⟩ sampleUploadStore ∧
      (∀ header ∈ sampleUploadRows.head?, header.map id = ReferralCSVHeaders) ∧
      (∀ row ∈ sampleUploadRows.tail, (referralHashCell (row.map id)).length = 0 ∨
        (referralHashCell (row.map id)).length = 8) ∧
      (⟨1, 1⟩ : AdminUploadReferralCSVResponse) =
        ⟨UInt64.ofNat (sampleUploadRows.tail.countP fun row =>
            (referralHashCell (row.map id)).isEmpty),
          UInt64.ofNat (sampleUploadRows.tail.countP fun row =>
            !(referralHashCell (row.map id)).isEmpty)⟩ :=
  ⟨AdminUploadReferralCSV_sampleUploadRows,
    AdminUploadReferralCSV_counts AdminUploadReferralCSV_sampleUploadRows⟩

end DesoBackend
