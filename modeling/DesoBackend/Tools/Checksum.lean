import DesoBackend.Go.Strconv
import Mathlib.Data.List.Sort

/-!
# The snapshot checksum tool

The checksum tool of `scripts/tools` walks every state prefix of a snapshot database in
chunks of about `maxBytes` and adds each entry it reads to the snapshot checksum.
`lib.DBIteratePrefixKeys` returns a chunk that starts at the last key read, that key
included, so every chunk after the first repeats the last entry of the chunk before; the loop
drops it. The loop needs three things of the iterator: a chunk is an initial run of the
entries from its start key on, it is all of them when it is not full, and it is not empty
when it is full. Given them, whatever the loop returns is every entry of the prefix, once each
and in key order; it panics only on a full chunk that holds nothing past the key it repeats;
and when no such chunk comes, it returns after one round per chunk.
-/

namespace DesoBackend

structure DBEntry where
  Key : Bytes
  Value : Bytes
  deriving DecidableEq

/-- `bytes.Compare(a, b) < 0`, the order in which the database keeps its keys. -/
def keyLt : Bytes → Bytes → Bool
  | [], [] => false
  | [], _ :: _ => true
  | _ :: _, [] => false
  | a :: as, b :: bs => if a = b then keyLt as bs else decide (a < b)

/-- The entries an iterator positioned by `Seek(startKey)` walks through: those from the first
key not below `startKey` on. -/
def entriesFrom (es : List DBEntry) (startKey : Bytes) : List DBEntry :=
  es.dropWhile fun e => keyLt e.Key startKey

/-- The goroutine `main` runs for one prefix, `DBIteratePrefixKeys` being
`lib.DBIteratePrefixKeys(dbSnap, prefix, ·, maxBytes)`: fetch a chunk from `lastPrefix`, drop
its first entry after the first round (`entries[1:]`), add the rest to the checksum (`added`,
in the order `AddChecksumBytes` is called), and go on from the last key added while the chunk
is full. `fuel` bounds the rounds of the `for` loop. -/
def checksumPrefix (DBIteratePrefixKeys : Bytes → List DBEntry × Bool) :
    Nat → Bytes → Bool → List DBEntry → Except Failure (List DBEntry)
  | 0, _, _, _ => .error .diverge
  | fuel + 1, lastPrefix, removeFirst, added =>
    let (entries, fullDb) := DBIteratePrefixKeys lastPrefix
    match (if removeFirst then entries.tail? else some entries) with
    | none => .error (.panic "runtime error: slice bounds out of range [1:0]")
    | some entries =>
      let added := added ++ entries
      match entries.getLast? with
      | some last =>
        if fullDb then checksumPrefix DBIteratePrefixKeys fuel last.Key true added else .ok added
      | none =>
        if fullDb then .error (.panic "Number of ancestral records should not be zero")
        else .ok added

/-- The prefixes `main` checks: the prefixes `lib.StatePrefixes.StatePrefixesMap` marks as
state, sorted by their byte (`sort.Slice`; the bytes of a map's keys are distinct, so every
sort gives this order). -/
def statePrefixes (StatePrefixesMap : List (Char × Bool)) : List Char :=
  ((StatePrefixesMap.filter (·.2)).map (·.1)).insertionSort (· ≤ ·)

/-- `main`: with a single process the goroutines run one after another, so the checksum
receives the entries of each state prefix in turn. -/
def computeChecksum (DBIteratePrefixKeys : Bytes → Bytes → List DBEntry × Bool) (fuel : Nat)
    (StatePrefixesMap : List (Char × Bool)) : Except Failure (List DBEntry) :=
  List.flatten <$> (statePrefixes StatePrefixesMap).mapM fun pfx =>
    checksumPrefix (DBIteratePrefixKeys [pfx]) fuel [pfx] false []

/-- What the loop needs of `lib.DBIteratePrefixKeys` on a prefix holding the entries `es`: from
a start key, a chunk that is an initial run of the entries from that key on, all of them when
the chunk is not full, and at least one when it is. -/
structure ChunksEntries (es : List DBEntry) (DBIteratePrefixKeys : Bytes → List DBEntry × Bool) :
    Prop where
  chunk_initial : ∀ startKey, (DBIteratePrefixKeys startKey).1 <+: entriesFrom es startKey
  not_full : ∀ startKey, (DBIteratePrefixKeys startKey).2 = false →
    (DBIteratePrefixKeys startKey).1 = entriesFrom es startKey
  full_ne_nil : ∀ startKey, (DBIteratePrefixKeys startKey).2 = true →
    (DBIteratePrefixKeys startKey).1 ≠ []

section Keys

lemma keyLt_self : ∀ k : Bytes, keyLt k k = false
  | [] => rfl
  | a :: k => by simp only [keyLt, if_true, keyLt_self k]

lemma keyLt_cons_singleton (a : Char) : ∀ k : Bytes, keyLt (a :: k) [a] = false
  | [] => by simp only [keyLt, if_true]
  | _ :: _ => by simp only [keyLt, if_true]

/-- In a database kept in key order, the entries from a stored key on start at that key. -/
lemma entriesFrom_of_sorted {pre ys : List DBEntry} {e : DBEntry}
    (hsorted : (pre ++ e :: ys).Pairwise fun a b => keyLt a.Key b.Key) :
    entriesFrom (pre ++ e :: ys) e.Key = e :: ys := by
  induction pre with
  | nil => simp [entriesFrom, List.dropWhile_cons, keyLt_self]
  | cons x pre ih =>
    have hx : keyLt x.Key e.Key = true :=
      List.rel_of_pairwise_cons hsorted (List.mem_append_right _ (List.mem_cons_self e ys))
    simp only [List.cons_append, entriesFrom, List.dropWhile_cons, hx, if_true] at ih ⊢
    exact ih (List.Pairwise.of_cons hsorted)

/-- Every key under the one-byte prefix `[a]` is at least `[a]`. -/
lemma entriesFrom_of_under {a : Char} {es : List DBEntry} (hes : ∀ e ∈ es, [a] <+: e.Key) :
    entriesFrom es [a] = es := by
  cases es with
  | nil => rfl
  | cons e es =>
    obtain ⟨k, hk⟩ := hes e (List.mem_cons_self e es)
    simp only [entriesFrom, List.dropWhile_cons, ← hk, List.singleton_append,
      keyLt_cons_singleton, Bool.false_eq_true, if_false]

end Keys

lemma eq_nil_or_append_last (l : List DBEntry) : l = [] ∨ ∃ init last, l = init ++ [last] :=
  (List.eq_nil_or_concat l).imp_right fun ⟨init, last, h⟩ =>
    ⟨init, last, h.trans (List.concat_eq_append _ _)⟩

/-- The outcomes the loop may have on a prefix holding the entries `es`: every entry, once and
in order; the panic on a full chunk with nothing new; or no end within the rounds given. -/
def ChecksumOutcome (es : List DBEntry) (r : Except Failure (List DBEntry)) : Prop :=
  r = .ok es ∨ r = .error (.panic "Number of ancestral records should not be zero") ∨
    r = .error .diverge

section Loop

variable {es : List DBEntry} {it : Bytes → List DBEntry × Bool}

/-- One round of the loop on the entries left after the optional drop of the first. -/
lemma checksumPrefix_succ (removeFirst : Bool) {fuel : Nat} {key : Bytes}
    {added chunk entries : List DBEntry} (h : it key = (chunk, (it key).2))
    (hdrop : (if removeFirst then chunk.tail? else some chunk) = some entries) :
    checksumPrefix it (fuel + 1) key removeFirst added =
      match entries.getLast? with
      | some last =>
        if (it key).2 then checksumPrefix it fuel last.Key true (added ++ entries)
        else .ok (added ++ entries)
      | none =>
        if (it key).2 then .error (.panic "Number of ancestral records should not be zero")
        else .ok (added ++ entries) := by
  conv_lhs => rw [checksumPrefix, h]
  simp only [hdrop]

/-- A chunk started at a stored key holds that key first, then an initial run of the entries
after it, all of them when the chunk is not full. -/
lemma chunk_at_key (hit : ChunksEntries es it)
    (hsorted : es.Pairwise fun a b => keyLt a.Key b.Key) {pre ys : List DBEntry} {e : DBEntry}
    (hes : es = pre ++ e :: ys) :
    ∃ c, it e.Key = (e :: c, (it e.Key).2) ∧ c <+: ys ∧ ((it e.Key).2 = false → c = ys) := by
  subst hes
  have hfrom := entriesFrom_of_sorted hsorted
  have hp := hit.chunk_initial e.Key
  rw [hfrom] at hp
  rcases List.prefix_cons_iff.mp hp with hnil | ⟨c, hc, hcp⟩
  · cases hfull : (it e.Key).2
    · have hall := hit.not_full e.Key hfull
      rw [hfrom, hnil] at hall
      cases hall
    · exact absurd hnil (hit.full_ne_nil e.Key hfull)
  · refine ⟨c, Prod.ext hc rfl, hcp, fun hfull => ?_⟩
    have hall := hit.not_full e.Key hfull
    rw [hfrom, hc] at hall
    exact (List.cons.inj hall).2

/-- From a round after the first, the loop returns all the entries, or panics on a full chunk
with nothing new, or runs out of rounds; and when every full chunk started at a stored key
holds another entry, one round per entry left and one more are enough for it to return. -/
lemma checksumPrefix_from_key (hit : ChunksEntries es it)
    (hsorted : es.Pairwise fun a b => keyLt a.Key b.Key) :
    ∀ {fuel : Nat} {pre ys : List DBEntry} {e : DBEntry}, es = pre ++ e :: ys →
      ChecksumOutcome es (checksumPrefix it fuel e.Key true (pre ++ [e])) ∧
        ((∀ e ∈ es, (it e.Key).2 = true → 2 ≤ (it e.Key).1.length) → ys.length < fuel →
          checksumPrefix it fuel e.Key true (pre ++ [e]) = .ok es) := by
  intro fuel
  induction fuel with
  | zero => exact fun _ => ⟨.inr (.inr rfl), fun _ h => absurd h (Nat.not_lt_zero _)⟩
  | succ fuel ih =>
    intro pre ys e hes
    obtain ⟨c, hc, ⟨ys', rfl⟩, hnf⟩ := chunk_at_key hit hsorted hes
    rw [checksumPrefix_succ true hc rfl]
    rcases eq_nil_or_append_last c with rfl | ⟨c', last, rfl⟩ <;> cases hfull : (it e.Key).2
    case inl.false | inr.intro.intro.false =>
      -- the chunk was not full, so it held every entry left
      obtain rfl : ys' = [] := by simpa using hnf hfull
      simp [hes, ChecksumOutcome]
    case inl.true =>
      -- a full chunk with nothing new: the panic, which progress rules out
      refine ⟨.inr (.inl (by simp)), fun hprog _ => absurd (hprog e (by simp [hes]) hfull) ?_⟩
      rw [hc]
      simp
    case inr.intro.intro.true =>
      simp only [List.getLast?_concat, if_true]
      obtain ⟨hout, hok⟩ := ih (show es = (pre ++ e :: c') ++ last :: ys' by simp [hes])
      refine ⟨by simpa using hout, fun hprog hlt => ?_⟩
      have hleft : ys'.length < fuel := by
        simp only [List.length_append, List.length_singleton] at hlt
        omega
      simpa using hok hprog hleft

end Loop

variable {es : List DBEntry} {it : Bytes → List DBEntry × Bool}

/-- On a prefix holding the entries `es` in key order, started from a key no entry is below,
the loop adds no entry twice and skips none: whatever it returns is `es`, and otherwise it
panics on a full chunk holding only the key it repeats, or runs out of rounds. When every full
chunk started at a stored key holds another entry, one round per entry and one more are enough
for it to return. -/
lemma checksumPrefix_adds_every_entry_once (hit : ChunksEntries es it)
    (hsorted : es.Pairwise fun a b => keyLt a.Key b.Key) {startKey : Bytes}
    (hstart : entriesFrom es startKey = es) (fuel : Nat) :
    ChecksumOutcome es (checksumPrefix it fuel startKey false []) ∧
      ((∀ e ∈ es, (it e.Key).2 = true → 2 ≤ (it e.Key).1.length) → es.length < fuel →
        checksumPrefix it fuel startKey false [] = .ok es) := by
  cases fuel with
  | zero => exact ⟨.inr (.inr rfl), fun _ h => absurd h (Nat.not_lt_zero _)⟩
  | succ fuel =>
    have hp := hit.chunk_initial startKey
    rw [hstart] at hp
    obtain ⟨ys, hys⟩ := hp
    rw [checksumPrefix_succ false (rfl : it startKey = ((it startKey).1, (it startKey).2)) rfl]
    rcases eq_nil_or_append_last (it startKey).1 with hnil | ⟨c', last, hlast⟩
    · cases hfull : (it startKey).2
      · have hall := hit.not_full startKey hfull
        rw [hstart, hnil] at hall
        subst hall
        simp [hnil, ChecksumOutcome]
      · exact absurd hnil (hit.full_ne_nil startKey hfull)
    · rw [hlast, List.getLast?_concat]
      cases hfull : (it startKey).2
      · have hall := hit.not_full startKey hfull
        rw [hstart, hlast] at hall
        simp [← hall, ChecksumOutcome]
      · simp only [if_true, List.nil_append]
        have hes : es = c' ++ last :: ys := by rw [← hys, hlast]; simp
        refine ⟨(checksumPrefix_from_key hit hsorted hes).1, fun hprog hlt =>
          (checksumPrefix_from_key hit hsorted hes).2 hprog ?_⟩
        rw [hes] at hlt
        simp only [List.length_append, List.length_cons] at hlt
        omega

/-! ### The whole tool -/

/-- The entries of the database under the one-byte prefix `pfx`, in key order. -/
def entriesUnder (db : List DBEntry) (pfx : Char) : List DBEntry :=
  db.filter fun e => [pfx].isPrefixOf e.Key

lemma prefix_of_mem_entriesUnder {db : List DBEntry} {pfx : Char} {e : DBEntry}
    (he : e ∈ entriesUnder db pfx) : [pfx] <+: e.Key :=
  List.isPrefixOf_iff_prefix.mp (List.mem_filter.mp he).2

/-- A prefix's entries come before those of the prefixes after it, whatever they give. -/
lemma ChecksumOutcome.append {pre es : List DBEntry} {r : Except Failure (List DBEntry)}
    (h : ChecksumOutcome es r) : ChecksumOutcome (pre ++ es) ((pre ++ ·) <$> r) := by
  rcases h with rfl | rfl | rfl
  · exact .inl rfl
  · exact .inr (.inl rfl)
  · exact .inr (.inr rfl)

lemma flatten_mapM_cons_ok {f : Char → Except Failure (List DBEntry)} {pfx : Char}
    {ps : List Char} {a : List DBEntry} (hf : f pfx = .ok a) :
    List.flatten <$> (pfx :: ps).mapM f = (a ++ ·) <$> (List.flatten <$> ps.mapM f) := by
  rw [List.mapM_cons, hf]
  cases ps.mapM f <;> rfl

/-- The goroutines one after another: each prefix's outcome, and the first failure stops the
tool. -/
lemma ChecksumOutcome.flatten_mapM {f : Char → Except Failure (List DBEntry)}
    {g : Char → List DBEntry} :
    ∀ {ps : List Char}, (∀ pfx ∈ ps, ChecksumOutcome (g pfx) (f pfx)) →
      ChecksumOutcome (ps.flatMap g) (List.flatten <$> ps.mapM f)
  | [], _ => .inl rfl
  | pfx :: ps, h => by
    have ih := ChecksumOutcome.flatten_mapM fun q hq => h q (List.mem_cons_of_mem pfx hq)
    rcases h pfx (List.mem_cons_self pfx ps) with hf | hf | hf
    · rw [flatten_mapM_cons_ok hf, List.flatMap_cons]
      exact ih.append
    all_goals rw [List.mapM_cons, hf]
    · exact .inr (.inl rfl)
    · exact .inr (.inr rfl)

lemma flatten_mapM_eq_ok {f : Char → Except Failure (List DBEntry)} {g : Char → List DBEntry} :
    ∀ {ps : List Char}, (∀ pfx ∈ ps, f pfx = .ok (g pfx)) →
      List.flatten <$> ps.mapM f = .ok (ps.flatMap g)
  | [], _ => rfl
  | pfx :: ps, h => by
    rw [flatten_mapM_cons_ok (h pfx (List.mem_cons_self pfx ps)),
      flatten_mapM_eq_ok fun q hq => h q (List.mem_cons_of_mem pfx hq)]
    rfl

/-- The checksum tool over a database kept in key order, given an iterator that meets what the
loop needs on every prefix: the checksum receives no entry twice and skips none. Whatever the
tool returns is every entry of every state prefix, prefix after prefix in byte order, each
prefix's entries in key order; and otherwise it panics on a full chunk holding only the key it
repeats, or runs out of rounds. When every full chunk started at a stored key holds another
entry, one round per entry of the database and one more are enough. -/
theorem computeChecksum_adds_every_entry_once (db : List DBEntry)
    (hsorted : db.Pairwise fun a b => keyLt a.Key b.Key)
    (DBIteratePrefixKeys : Bytes → Bytes → List DBEntry × Bool)
    (hit : ∀ pfx, ChunksEntries (entriesUnder db pfx) (DBIteratePrefixKeys [pfx]))
    (StatePrefixesMap : List (Char × Bool)) (fuel : Nat) :
    ChecksumOutcome ((statePrefixes StatePrefixesMap).flatMap (entriesUnder db))
        (computeChecksum DBIteratePrefixKeys fuel StatePrefixesMap) ∧
      ((∀ pfx, ∀ e ∈ entriesUnder db pfx, (DBIteratePrefixKeys [pfx] e.Key).2 = true →
          2 ≤ (DBIteratePrefixKeys [pfx] e.Key).1.length) → db.length < fuel →
        computeChecksum DBIteratePrefixKeys fuel StatePrefixesMap =
          .ok ((statePrefixes StatePrefixesMap).flatMap (entriesUnder db))) := by
  have hrun := fun pfx => checksumPrefix_adds_every_entry_once (hit pfx)
    (hsorted.filter _) (entriesFrom_of_under fun _ => prefix_of_mem_entriesUnder) fuel
  refine ⟨ChecksumOutcome.flatten_mapM fun pfx _ => (hrun pfx).1, fun hprog hlt => ?_⟩
  have hok : ∀ pfx, checksumPrefix (DBIteratePrefixKeys [pfx]) fuel [pfx] false [] =
      .ok (entriesUnder db pfx) := fun pfx =>
    (hrun pfx).2 (hprog pfx) ((List.length_filter_le _ _).trans_lt hlt)
  exact flatten_mapM_eq_ok fun pfx _ => hok pfx

/-! ### Chunks of bounded size -/

/-- Chunks of about `targetBytes`: from the start on, the entries up to the one whose key and
value take the chunk past `targetBytes`, that one included; the chunk is full when it stops
there. -/
def sizeBoundedChunks (targetBytes : Nat) : Nat → List DBEntry → List DBEntry × Bool
  | _, [] => ([], false)
  | totalBytes, e :: es =>
    if targetBytes < totalBytes + e.Key.length + e.Value.length then ([e], true)
    else
      let rest := sizeBoundedChunks targetBytes (totalBytes + e.Key.length + e.Value.length) es
      (e :: rest.1, rest.2)

/-- An iterator over a whole database that returns chunks of bounded size. -/
def sizeBoundedIterator (db : List DBEntry) (targetBytes : Nat) (pfx startKey : Bytes) :
    List DBEntry × Bool :=
  sizeBoundedChunks targetBytes 0 (entriesFrom (db.filter fun e => pfx.isPrefixOf e.Key) startKey)

lemma sizeBoundedChunks_spec (targetBytes : Nat) :
    ∀ (totalBytes : Nat) (l : List DBEntry),
      (sizeBoundedChunks targetBytes totalBytes l).1 <+: l ∧
        ((sizeBoundedChunks targetBytes totalBytes l).2 = false →
          (sizeBoundedChunks targetBytes totalBytes l).1 = l) ∧
        ((sizeBoundedChunks targetBytes totalBytes l).2 = true →
          (sizeBoundedChunks targetBytes totalBytes l).1 ≠ [])
  | _, [] => ⟨⟨_, rfl⟩, fun _ => rfl, nofun⟩
  | totalBytes, e :: es => by
    unfold sizeBoundedChunks
    split
    · exact ⟨List.cons_prefix_cons.mpr ⟨rfl, List.nil_prefix⟩, nofun, fun _ => List.cons_ne_nil _ _⟩
    · obtain ⟨hp, hnf, -⟩ := sizeBoundedChunks_spec targetBytes
        (totalBytes + e.Key.length + e.Value.length) es
      exact ⟨List.cons_prefix_cons.mpr ⟨rfl, hp⟩, fun h => congrArg (e :: ·) (hnf h),
        fun _ => List.cons_ne_nil _ _⟩

/-- Bounded chunks meet what the loop needs, on every prefix of every database. -/
lemma sizeBoundedIterator_chunksEntries (db : List DBEntry) (targetBytes : Nat) (pfx : Char) :
    ChunksEntries (entriesUnder db pfx) (sizeBoundedIterator db targetBytes [pfx]) where
  chunk_initial _ := (sizeBoundedChunks_spec targetBytes 0 _).1
  not_full _ := (sizeBoundedChunks_spec targetBytes 0 _).2.1
  full_ne_nil _ := (sizeBoundedChunks_spec targetBytes 0 _).2.2

/-- When every entry fits in `targetBytes`, a full chunk started at a stored key holds an entry
past it. -/
lemma sizeBoundedIterator_progress {db : List DBEntry} {targetBytes : Nat} {pfx : Char}
    (hsorted : db.Pairwise fun a b => keyLt a.Key b.Key)
    (hfit : ∀ e ∈ db, e.Key.length + e.Value.length ≤ targetBytes) :
    ∀ e ∈ entriesUnder db pfx, (sizeBoundedIterator db targetBytes [pfx] e.Key).2 = true →
      2 ≤ (sizeBoundedIterator db targetBytes [pfx] e.Key).1.length := by
  intro e he hfull
  obtain ⟨pre, ys, hes⟩ := List.append_of_mem he
  have hfrom : entriesFrom (entriesUnder db pfx) e.Key = e :: ys := by
    rw [hes]
    exact entriesFrom_of_sorted (hes ▸ hsorted.filter _)
  have hfits := hfit e (List.mem_filter.mp he).1
  have hsplit : sizeBoundedIterator db targetBytes [pfx] e.Key =
      (e :: (sizeBoundedChunks targetBytes (e.Key.length + e.Value.length) ys).1,
        (sizeBoundedChunks targetBytes (e.Key.length + e.Value.length) ys).2) := by
    rw [sizeBoundedIterator, ← entriesUnder, hfrom, sizeBoundedChunks,
      if_neg (by omega), Nat.zero_add]
  rw [hsplit] at hfull ⊢
  obtain ⟨-, -, hne⟩ := sizeBoundedChunks_spec targetBytes (e.Key.length + e.Value.length) ys
  obtain ⟨x, xs, hx⟩ := List.exists_cons_of_ne_nil (hne hfull)
  simp [hx]

/-- Three entries under the state prefixes `a` and `b`, and one under `c`, which is not
state. -/
def sampleSnapshot : List DBEntry :=
  [⟨"a1".data, "x".data⟩, ⟨"a2".data, "y".data⟩, ⟨"b1".data, "z".data⟩, ⟨"c1".data, "w".data⟩]

/-- `StatePrefixesMap` of `sampleSnapshot`, in the order a map may list it. -/
def sampleStatePrefixesMap : List (Char × Bool) := [('b', true), ('c', false), ('a', true)]

example : computeChecksum (sizeBoundedIterator sampleSnapshot 3) 5 sampleStatePrefixesMap =
    .ok (sampleSnapshot.take 3) := rfl

/-- The tool on `sampleSnapshot` with chunks of 3 bytes, where every entry fits: each full chunk
makes progress, and the tool adds every state entry once. -/
theorem computeChecksum_adds_every_entry_once_sample :
    (sampleSnapshot.Pairwise fun a b => keyLt a.Key b.Key) ∧
      (∀ pfx, ChunksEntries (entriesUnder sampleSnapshot pfx)
        (sizeBoundedIterator sampleSnapshot 3 [pfx])) ∧
      ChecksumOutcome ((statePrefixes sampleStatePrefixesMap).flatMap (entriesUnder sampleSnapshot))
        (computeChecksum (sizeBoundedIterator sampleSnapshot 3) 5 sampleStatePrefixesMap) ∧
      (∀ pfx, ∀ e ∈ entriesUnder sampleSnapshot pfx,
          (sizeBoundedIterator sampleSnapshot 3 [pfx] e.Key).2 = true →
          2 ≤ (sizeBoundedIterator sampleSnapshot 3 [pfx] e.Key).1.length) ∧
      computeChecksum (sizeBoundedIterator sampleSnapshot 3) 5 sampleStatePrefixesMap =
        .ok ((statePrefixes sampleStatePrefixesMap).flatMap (entriesUnder sampleSnapshot)) :=
  have hsorted : sampleSnapshot.Pairwise fun a b => keyLt a.Key b.Key := by decide
  have hfit : ∀ e ∈ sampleSnapshot, e.Key.length + e.Value.length ≤ 3 := by decide
  have h := computeChecksum_adds_every_entry_once sampleSnapshot hsorted _
    (sizeBoundedIterator_chunksEntries sampleSnapshot 3) sampleStatePrefixesMap 5
  ⟨hsorted, sizeBoundedIterator_chunksEntries sampleSnapshot 3, h.1,
    fun _ => sizeBoundedIterator_progress hsorted hfit,
    h.2 (fun _ => sizeBoundedIterator_progress hsorted hfit) (by decide)⟩

end DesoBackend
