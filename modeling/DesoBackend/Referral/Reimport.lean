import DesoBackend.Referral.Upload

/-!
# Re-importing an exported referral CSV

`AdminDownloadReferralCSV` followed by `AdminUploadReferralCSV` on the rows it returned, from a
store reachable by the admin writes. The upload succeeds once `strconv.ParseFloat` reads every
printed `uint64`, the referrers' keys decode back, `strings.TrimSpace` leaves the cells alone
and the records' `Put`s succeed. It counts every link as updated and creates none. It rewrites
each record with its creation time read back through a `float64`, leaves every exported active
flag reading as it did, and writes no other key.
-/

namespace DesoBackend

/-- A record with its creation time as the upload reads it back: the `uint64` of the `float64`
that `strconv.ParseFloat` makes of the printed time. -/
def retimed (ParsedTime : UInt64 → Float64) (info : ReferralInfo) : ReferralInfo :=
  { info with DateCreatedTStampNanos := float64ToUint64 (ParsedTime info.DateCreatedTStampNanos) }

@[simp] lemma retimed_ReferralHashBase58 (ParsedTime : UInt64 → Float64) (info : ReferralInfo) :
    (retimed ParsedTime info).ReferralHashBase58 = info.ReferralHashBase58 := rfl

@[simp] lemma retimed_ReferrerPKID (ParsedTime : UInt64 → Float64) (info : ReferralInfo) :
    (retimed ParsedTime info).ReferrerPKID = info.ReferrerPKID := rfl

section Export

variable {P : ReferralPrefixes} {st : GlobalState}

/-- In an invariant store, a key under the record prefix that holds a record is the key of the
record's own hash. -/
lemma eq_infoKey_of_lookup (hi : ReferralIndexInv P st) {k : Bytes} {info : ReferralInfo}
    (hp : [P.ReferralHashToReferralInfo] <+: k) (hl : st.lookup k = some (.referralInfo info)) :
    k = GlobalStateKeyForReferralHashToReferralInfo P info.ReferralHashBase58 := by
  rcases hi.keys_referral k (AList.lookup_isSome.mp (by rw [hl]; rfl)) with
    ⟨h, rfl⟩ | ⟨p, h, rfl⟩
  · obtain ⟨-, _, hv, hk⟩ := hi.info_wf h _ hl
    cases hv
    rw [hk]
  · exact absurd (List.cons_prefix_cons.mp hp).1 P.info_ne_isActive

/-- In an invariant store, `getAllReferralInfos` returns exactly the stored records. -/
lemma mem_getAllReferralInfos (hi : ReferralIndexInv P st) {info : ReferralInfo} :
    info ∈ getAllReferralInfos P st ↔
      st.lookup (GlobalStateKeyForReferralHashToReferralInfo P info.ReferralHashBase58) =
        some (.referralInfo info) := by
  simp only [getAllReferralInfos, List.mem_filterMap]
  constructor
  · rintro ⟨⟨k, _ | _⟩, hm, hv⟩ <;> simp only [Option.some.injEq, reduceCtorEq] at hv
    subst hv
    obtain ⟨hp, hl⟩ := mem_seek.mp hm
    rwa [← eq_infoKey_of_lookup hi hp hl]
  · intro hl
    exact ⟨(_, _), mem_seek.mpr ⟨List.cons_prefix_cons.mpr ⟨rfl, List.nil_prefix⟩, hl⟩, rfl⟩

/-- In an invariant store, the exported records have pairwise different hashes. -/
lemma getAllReferralInfos_pairwise (hi : ReferralIndexInv P st) :
    (getAllReferralInfos P st).Pairwise fun a b => a.ReferralHashBase58 ≠ b.ReferralHashBase58 := by
  refine (List.Pairwise.and_mem.mp (seek_pairwise_ne st _)).filterMap _ ?_
  rintro ⟨k, _ | _⟩ ⟨k', _ | _⟩ ⟨ha, ha', hne⟩ b hb b' hb' heq <;>
    simp only [Option.mem_def, Option.some.injEq, reduceCtorEq] at hb hb'
  subst hb hb'
  obtain ⟨hp, hl⟩ := mem_seek.mp ha
  obtain ⟨hp', hl'⟩ := mem_seek.mp ha'
  exact hne (by rw [eq_infoKey_of_lookup hi hp hl, eq_infoKey_of_lookup hi hp' hl', heq])

end Export

section Reimport

variable {P : ReferralPrefixes} {env : RequestEnv} {utxoView : UtxoView} {st s : GlobalState}
  {TrimSpace : Bytes → Bytes} {ParsedTime : UInt64 → Float64} {info : ReferralInfo}

variable (P) in
/-- The two keys of a record's row, its record and its flag, differ from those of a record with
another hash. -/
lemma exportedKeys_ne {i i' : ReferralInfo} (hne : i.ReferralHashBase58 ≠ i'.ReferralHashBase58) :
    GlobalStateKeyForReferralHashToReferralInfo P i.ReferralHashBase58 ≠
        GlobalStateKeyForReferralHashToReferralInfo P i'.ReferralHashBase58 ∧
      GlobalStateKeyForReferralHashToReferralInfo P i.ReferralHashBase58 ≠
        GlobalStateKeyForPKIDReferralHashToIsActive P i'.ReferrerPKID i'.ReferralHashBase58 ∧
      GlobalStateKeyForPKIDReferralHashToIsActive P i.ReferrerPKID i.ReferralHashBase58 ≠
        GlobalStateKeyForReferralHashToReferralInfo P i'.ReferralHashBase58 ∧
      GlobalStateKeyForPKIDReferralHashToIsActive P i.ReferrerPKID i.ReferralHashBase58 ≠
        GlobalStateKeyForPKIDReferralHashToIsActive P i'.ReferrerPKID i'.ReferralHashBase58 :=
  ⟨mt infoKey_inj.mp hne, infoKey_ne_statusKey _ _ _, (infoKey_ne_statusKey _ _ _).symm,
    fun h => hne (statusKey_inj.mp h).2⟩

/-- The header row passes when `strings.TrimSpace` leaves it alone, and writes nothing. -/
lemma uploadReferralCSVRow_header {res : AdminUploadReferralCSVResponse}
    (htrim : ReferralCSVHeaders.map TrimSpace = ReferralCSVHeaders) :
    uploadReferralCSVRow P env TrimSpace res 0 ReferralCSVHeaders s = .ok res s := by
  unfold uploadReferralCSVRow
  rw [if_neg (by decide)]
  dsimp only
  rw [if_pos rfl, htrim, if_pos rfl]
  rfl

variable (env) in
/-- The exported row of a record, re-imported as a data row in a store that holds the record:
it is counted as an updated link, writes the record with its creation time read back, leaves
the flag reading as it did when exported, and writes no other key. -/
lemma uploadReferralCSVRow_exported {res : AdminUploadReferralCSVResponse} {rowIdx : Nat}
    (hidx : 0 < rowIdx)
    (hs : s.lookup (GlobalStateKeyForReferralHashToReferralInfo P info.ReferralHashBase58) =
      some (.referralInfo info))
    (hlen : info.ReferralHashBase58.length = 8)
    (hstat : s.lookup (GlobalStateKeyForPKIDReferralHashToIsActive P info.ReferrerPKID
      info.ReferralHashBase58) = st.lookup (GlobalStateKeyForPKIDReferralHashToIsActive P
        info.ReferrerPKID info.ReferralHashBase58))
    (htrim : (referralCSVRow P env utxoView st info).map TrimSpace =
      referralCSVRow P env utxoView st info)
    (hpk : env.Base58CheckDecode (env.PkToString info.ReferrerPKID.bytes) =
      .ok info.ReferrerPKID.bytes)
    (hf : env.ParseFloat (FormatUint info.DateCreatedTStampNanos) =
      .ok (ParsedTime info.DateCreatedTStampNanos))
    (hput : env.putError (GlobalStateKeyForReferralHashToReferralInfo P info.ReferralHashBase58) =
      none) :
    ∃ s', uploadReferralCSVRow P env TrimSpace res rowIdx (referralCSVRow P env utxoView st info)
        s = .ok { res with LinksUpdated := res.LinksUpdated + 1 } s' ∧
      s'.lookup (GlobalStateKeyForReferralHashToReferralInfo P info.ReferralHashBase58) =
        some (.referralInfo (retimed ParsedTime info)) ∧
      exportedIsActive P s' info = exportedIsActive P st info ∧
      ∀ k, k ≠ GlobalStateKeyForReferralHashToReferralInfo P info.ReferralHashBase58 →
        k ≠ GlobalStateKeyForPKIDReferralHashToIsActive P info.ReferrerPKID
          info.ReferralHashBase58 → s'.lookup k = s.lookup k := by
  have hhash : info.ReferralHashBase58 ≠ [] := List.ne_nil_of_length_pos (by omega)
  have hc : referralInfoFromCSVRow P env s (referralCSVRow P env utxoView st info) =
      .ok (retimed ParsedTime info) := referralInfoFromCSVRow_exported hs hhash hpk hf
  obtain ⟨s', hrun, -⟩ :=
    updateOrCreateReferralInfoFromCSVRow_of_ok hc isActiveFromCSVRow_exported hput
  refine ⟨s', ?_, updateOrCreateReferralInfoFromCSVRow_exported hs hhash hstat hpk hf hrun⟩
  have h13 : (referralCSVRow P env utxoView st info).length = 13 := rfl
  unfold uploadReferralCSVRow
  rw [if_neg (by omega)]
  dsimp only
  rw [if_neg (Nat.pos_iff_ne_zero.mp hidx), htrim,
    show referralHashCell (referralCSVRow P env utxoView st info) = info.ReferralHashBase58
      from rfl, hlen, if_neg (by decide)]
  exact bind_eq_ok.mpr ⟨(), s', wrapError_eq_ok.mpr hrun, rfl⟩

/-- The exported rows of records with pairwise different hashes, re-imported from the row at
`rowIdx ≥ 1` on, in a store that holds each record and its exported flag: each row counts as an
updated link, each record is written with its creation time read back, each flag reads as it
did when exported, and no other key is written. -/
lemma uploadReferralCSVRows_exported {randBase58 : Nat → Bytes} {now : Nat → UInt64}
    {res : AdminUploadReferralCSVResponse} {rowIdx : Nat} {l : List ReferralInfo}
    (hidx : 0 < rowIdx)
    (hdist : l.Pairwise fun a b => a.ReferralHashBase58 ≠ b.ReferralHashBase58)
    (hparse : ∀ t : UInt64, env.ParseFloat (FormatUint t) = .ok (ParsedTime t))
    (hl : ∀ i ∈ l,
      s.lookup (GlobalStateKeyForReferralHashToReferralInfo P i.ReferralHashBase58) =
          some (.referralInfo i) ∧
        i.ReferralHashBase58.length = 8 ∧
        s.lookup (GlobalStateKeyForPKIDReferralHashToIsActive P i.ReferrerPKID
            i.ReferralHashBase58) =
          st.lookup (GlobalStateKeyForPKIDReferralHashToIsActive P i.ReferrerPKID
            i.ReferralHashBase58) ∧
        (referralCSVRow P env utxoView st i).map TrimSpace = referralCSVRow P env utxoView st i ∧
        env.Base58CheckDecode (env.PkToString i.ReferrerPKID.bytes) = .ok i.ReferrerPKID.bytes ∧
        env.putError (GlobalStateKeyForReferralHashToReferralInfo P i.ReferralHashBase58) = none) :
    ∃ s', uploadReferralCSVRows P env TrimSpace randBase58 now res rowIdx
        (l.map (referralCSVRow P env utxoView st)) s =
          .ok { res with LinksUpdated := res.LinksUpdated + UInt64.ofNat l.length } s' ∧
      (∀ i ∈ l, s'.lookup (GlobalStateKeyForReferralHashToReferralInfo P i.ReferralHashBase58) =
        some (.referralInfo (retimed ParsedTime i))) ∧
      (∀ i ∈ l, exportedIsActive P s' i = exportedIsActive P st i) ∧
      ∀ k, (∀ i ∈ l, k ≠ GlobalStateKeyForReferralHashToReferralInfo P i.ReferralHashBase58 ∧
          k ≠ GlobalStateKeyForPKIDReferralHashToIsActive P i.ReferrerPKID i.ReferralHashBase58) →
        s'.lookup k = s.lookup k := by
  induction l generalizing s res rowIdx with
  | nil =>
    refine ⟨s, ?_, nofun, nofun, fun _ _ => rfl⟩
    rw [List.map_nil, List.length_nil, show UInt64.ofNat 0 = 0 from rfl, add_zero]
    rfl
  | cons i l ih =>
    obtain ⟨hs, hlen, hstat, htrim, hpk, hput⟩ := hl i (List.mem_cons_self i l)
    obtain ⟨hhd, htl⟩ := List.pairwise_cons.mp hdist
    obtain ⟨s₁, h₁, hinfo, hact, hframe⟩ := uploadReferralCSVRow_exported
      (rowEnv env randBase58 now rowIdx) hidx hs hlen hstat htrim hpk (hparse _) hput
    have hl₁ : ∀ i' ∈ l,
        s₁.lookup (GlobalStateKeyForReferralHashToReferralInfo P i'.ReferralHashBase58) =
            some (.referralInfo i') ∧
          i'.ReferralHashBase58.length = 8 ∧
          s₁.lookup (GlobalStateKeyForPKIDReferralHashToIsActive P i'.ReferrerPKID
              i'.ReferralHashBase58) =
            st.lookup (GlobalStateKeyForPKIDReferralHashToIsActive P i'.ReferrerPKID
              i'.ReferralHashBase58) ∧
          (referralCSVRow P env utxoView st i').map TrimSpace =
            referralCSVRow P env utxoView st i' ∧
          env.Base58CheckDecode (env.PkToString i'.ReferrerPKID.bytes) =
            .ok i'.ReferrerPKID.bytes ∧
          env.putError (GlobalStateKeyForReferralHashToReferralInfo P i'.ReferralHashBase58) =
            none := by
      intro i' hi'
      obtain ⟨hs', hlen', hstat', hrest⟩ := hl i' (List.mem_cons_of_mem i hi')
      obtain ⟨h₁₁, h₁₂, h₂₁, h₂₂⟩ := exportedKeys_ne P (hhd i' hi')
      exact ⟨(hframe _ h₁₁.symm h₂₁.symm).trans hs', hlen',
        (hframe _ h₁₂.symm h₂₂.symm).trans hstat', hrest⟩
    obtain ⟨s', h₂, hinfo', hact', hframe'⟩ := ih (Nat.succ_pos rowIdx) htl hl₁
    have hother : ∀ i' ∈ l,
        GlobalStateKeyForReferralHashToReferralInfo P i.ReferralHashBase58 ≠
            GlobalStateKeyForReferralHashToReferralInfo P i'.ReferralHashBase58 ∧
          GlobalStateKeyForReferralHashToReferralInfo P i.ReferralHashBase58 ≠
            GlobalStateKeyForPKIDReferralHashToIsActive P i'.ReferrerPKID i'.ReferralHashBase58 :=
      fun i' hi' => ⟨(exportedKeys_ne P (hhd i' hi')).1, (exportedKeys_ne P (hhd i' hi')).2.1⟩
    have hother' : ∀ i' ∈ l,
        GlobalStateKeyForPKIDReferralHashToIsActive P i.ReferrerPKID i.ReferralHashBase58 ≠
            GlobalStateKeyForReferralHashToReferralInfo P i'.ReferralHashBase58 ∧
          GlobalStateKeyForPKIDReferralHashToIsActive P i.ReferrerPKID i.ReferralHashBase58 ≠
            GlobalStateKeyForPKIDReferralHashToIsActive P i'.ReferrerPKID i'.ReferralHashBase58 :=
      fun i' hi' => (exportedKeys_ne P (hhd i' hi')).2.2
    refine ⟨s', bind_eq_ok.mpr ⟨_, s₁, h₁, ?_⟩, ?_, ?_, fun k hk => ?_⟩
    · rw [h₂, List.length_cons, uint64_ofNat_succ, add_comm (UInt64.ofNat _) 1, ← add_assoc]
    · rintro i' (_ | ⟨_, hi'⟩)
      · rw [hframe' _ hother]
        exact hinfo
      · exact hinfo' i' hi'
    · rintro i' (_ | ⟨_, hi'⟩)
      · exact (exportedIsActive_congr (hframe' _ hother')).trans hact
      · exact hact' i' hi'
    · obtain ⟨hk₁, hk₂⟩ := hk i (List.mem_cons_self i l)
      rw [hframe' k fun i' hi' => hk i' (List.mem_cons_of_mem i hi'), hframe k hk₁ hk₂]

/-- Exporting the referral links of a reachable store and uploading the CSV back: the upload
succeeds, creates no link and counts every exported link as updated. Each stored record comes
back with its creation time replaced by the `uint64` of the `float64` that `strconv.ParseFloat`
reads from the printed time, each exported active flag reads as it did, and no key but the
records' and their flags' is written. The upload needs `strconv.ParseFloat` to read every printed
`uint64`, `strings.TrimSpace` to leave the cells alone, the referrers' Base58Check keys to decode
back and the records' `Put`s to succeed; a flag's `Put` may fail. -/
theorem AdminUploadReferralCSV_AdminDownloadReferralCSV {randBase58 : Nat → Bytes}
    {now : Nat → UInt64} {rows : List (List Bytes)} (hst : Reachable P st)
    (hdl : AdminDownloadReferralCSV P env st = .ok rows)
    (htrim : ∀ row ∈ rows, row.map TrimSpace = row)
    (hparse : ∀ t : UInt64, env.ParseFloat (FormatUint t) = .ok (ParsedTime t))
    (hpk : ∀ info ∈ getAllReferralInfos P st,
      env.Base58CheckDecode (env.PkToString info.ReferrerPKID.bytes) = .ok info.ReferrerPKID.bytes)
    (hput : ∀ info ∈ getAllReferralInfos P st,
      env.putError (GlobalStateKeyForReferralHashToReferralInfo P info.ReferralHashBase58) = none) :
    ∃ st', AdminUploadReferralCSV P env TrimSpace randBase58 now rows st =
        .ok ⟨0, UInt64.ofNat (rows.length - 1)⟩ st' ∧
      (∀ h info, st.lookup (GlobalStateKeyForReferralHashToReferralInfo P h) =
          some (.referralInfo info) →
        st'.lookup (GlobalStateKeyForReferralHashToReferralInfo P h) =
          some (.referralInfo (retimed ParsedTime info))) ∧
      (∀ info ∈ getAllReferralInfos P st, exportedIsActive P st' info = exportedIsActive P st info) ∧
      ∀ k, (∀ info ∈ getAllReferralInfos P st,
          k ≠ GlobalStateKeyForReferralHashToReferralInfo P info.ReferralHashBase58 ∧
          k ≠ GlobalStateKeyForPKIDReferralHashToIsActive P info.ReferrerPKID
            info.ReferralHashBase58) →
        st'.lookup k = st.lookup k := by
  have hi := inv_of_reachable hst
  unfold AdminDownloadReferralCSV at hdl
  split at hdl
  · cases hdl
  rename_i utxoView _
  cases hdl
  obtain ⟨st', hrun, hinfo, hact, hframe⟩ := uploadReferralCSVRows_exported Nat.one_pos
    (getAllReferralInfos_pairwise hi) hparse fun i hmem =>
      have hs := (mem_getAllReferralInfos hi).mp hmem
      ⟨hs, (hi.info_wf _ _ hs).1, rfl, htrim _ (List.mem_cons_of_mem _ (List.mem_map_of_mem _ hmem)),
        hpk i hmem, hput i hmem⟩
  refine ⟨st', bind_eq_ok.mpr ⟨_, st, uploadReferralCSVRow_header
    (htrim _ (List.mem_cons_self _ _)), ?_⟩, fun h info hl => ?_, hact, hframe⟩
  · rw [hrun, zero_add, List.length_cons, List.length_map, Nat.add_sub_cancel]
  · obtain ⟨-, _, hv, hk⟩ := hi.info_wf h _ hl
    cases hv
    subst hk
    exact hinfo info ((mem_getAllReferralInfos hi).mpr hl)

end Reimport

/-- The CSV `AdminDownloadReferralCSV` returns for `sampleLinkStore`. -/
def sampleLinkCSV : List (List Bytes) :=
  [ReferralCSVHeaders, ["abcdefgh".data, [], List.replicate 33 'p', "0".data, "0".data, "0".data,
    "false".data, "0".data, "0".data, "0".data, "0".data, "0".data, "true".data]]

lemma getAllReferralInfos_sampleLinkStore :
    getAllReferralInfos samplePrefixes sampleLinkStore = [sampleLinkInfo] := rfl

theorem AdminUploadReferralCSV_AdminDownloadReferralCSV_sample :
    (Reachable samplePrefixes sampleLinkStore ∧
      AdminDownloadReferralCSV samplePrefixes sampleCsvEnv sampleLinkStore = .ok sampleLinkCSV ∧
      (∀ row ∈ sampleLinkCSV, row.map id = row) ∧
      (∀ t : UInt64, sampleCsvEnv.ParseFloat (FormatUint t) = .ok twoPow53) ∧
      (∀ info ∈ getAllReferralInfos samplePrefixes sampleLinkStore,
        sampleCsvEnv.Base58CheckDecode (sampleCsvEnv.PkToString info.ReferrerPKID.bytes) =
          .ok info.ReferrerPKID.bytes) ∧
      ∀ info ∈ getAllReferralInfos samplePrefixes sampleLinkStore,
        sampleCsvEnv.putError (GlobalStateKeyForReferralHashToReferralInfo samplePrefixes
          info.ReferralHashBase58) = none) ∧
    ∃ st', AdminUploadReferralCSV samplePrefixes sampleCsvEnv id (fun _ => []) (fun _ => 0)
        sampleLinkCSV sampleLinkStore = .ok ⟨0, UInt64.ofNat (sampleLinkCSV.length - 1)⟩ st' ∧
      (∀ h info, sampleLinkStore.lookup (GlobalStateKeyForReferralHashToReferralInfo
          samplePrefixes h) = some (.referralInfo info) →
        st'.lookup (GlobalStateKeyForReferralHashToReferralInfo samplePrefixes h) =
          some (.referralInfo (retimed (fun _ => twoPow53) info))) ∧
      (∀ info ∈ getAllReferralInfos samplePrefixes sampleLinkStore,
        exportedIsActive samplePrefixes st' info =
          exportedIsActive samplePrefixes sampleLinkStore info) ∧
      ∀ k, (∀ info ∈ getAllReferralInfos samplePrefixes sampleLinkStore,
          k ≠ GlobalStateKeyForReferralHashToReferralInfo samplePrefixes info.ReferralHashBase58 ∧
          k ≠ GlobalStateKeyForPKIDReferralHashToIsActive samplePrefixes info.ReferrerPKID
            info.ReferralHashBase58) →
        st'.lookup k = sampleLinkStore.lookup k := by
  have hpk : ∀ info ∈ getAllReferralInfos samplePrefixes sampleLinkStore,
      sampleCsvEnv.Base58CheckDecode (sampleCsvEnv.PkToString info.ReferrerPKID.bytes) =
        .ok info.ReferrerPKID.bytes := by
    simp only [getAllReferralInfos_sampleLinkStore, List.mem_singleton, forall_eq]
    rfl
  have hput : ∀ info ∈ getAllReferralInfos samplePrefixes sampleLinkStore,
      sampleCsvEnv.putError (GlobalStateKeyForReferralHashToReferralInfo samplePrefixes
        info.ReferralHashBase58) = none := by
    simp only [getAllReferralInfos_sampleLinkStore, List.mem_singleton, forall_eq]
    rfl
  exact ⟨⟨sampleLinkStore_reachable, rfl, fun row _ => List.map_id row, fun _ => rfl, hpk, hput⟩,
    AdminUploadReferralCSV_AdminDownloadReferralCSV sampleLinkStore_reachable rfl
      (fun row _ => List.map_id row) (fun _ => rfl) hpk hput⟩

end DesoBackend
