import DesoBackend.Exchange.Order
import DesoBackend.Referral.Store
import Mathlib.Data.List.Forall2

/-!
# The order book endpoints

`GetDAOCoinLimitOrders` lists the orders of a coin pair, each side shown with the keys the
request resolved, and `GetTransactorDAOCoinLimitOrders` lists the orders of one transactor,
each shown with the keys of its coins' PKIDs. Both mark $DESO by the empty key: the pair
endpoint when the request leaves a coin empty, the transactor listing when a coin's PKID is the
zero PKID. A response reads the keys only through which of them is empty
(`buildDAOCoinLimitOrderResponse_relabel`), so on a view whose keys are never empty and whose
resolved PKIDs are never zero the pair endpoint shows every order of its book as the
transactor listing shows it: the same rate, quantity, operation type and ID, and an empty key
for the same coins (`GetDAOCoinLimitOrders_shown_alike`).
-/

namespace DesoBackend

/-- `lib.ZeroPKID`, the PKID of $DESO. -/
def ZeroPKID : PKID := ⟨List.replicate 33 (Char.ofNat 0), List.length_replicate _ _⟩

/-- The fields of a `lib.DAOCoinLimitOrderEntry` the transactor listing reads besides those a
response reads: the PKIDs of the coins it buys and sells. -/
structure BookOrder where
  order : DAOCoinLimitOrderEntry
  BuyingDAOCoinCreatorPKID : PKID
  SellingDAOCoinCreatorPKID : PKID

/-- What the order endpoints read of the augmented UTXO view: the public key a username or a
Base58Check key names, the PKID of a public key and back, Base58Check encoding, the two
order-book queries, and the Base58Check key of an order's transactor
(`Base58CheckEncode(GetPublicKeyForPKID(order.TransactorPKID))`). -/
structure OrderBookView where
  GetPubKeyAndProfileEntryForUsernameOrPublicKeyBase58Check : String → Except String Bytes
  GetPKIDForPublicKey : Bytes → PKID
  GetPublicKeyForPKID : PKID → Bytes
  Base58CheckEncode : Bytes → String
  GetAllDAOCoinLimitOrdersForThisDAOCoinPair : PKID → PKID → Except String (List BookOrder)
  GetAllDAOCoinLimitOrdersForThisTransactor : PKID → Except String (List BookOrder)
  transactorPublicKey : DAOCoinLimitOrderEntry → String

structure GetDAOCoinLimitOrdersRequest where
  DAOCoin1CreatorPublicKeyBase58CheckOrUsername : String
  DAOCoin2CreatorPublicKeyBase58CheckOrUsername : String

structure GetTransactorDAOCoinLimitOrdersRequest where
  TransactorPublicKeyBase58CheckOrUsername : String

def getPublicKeyBase58CheckAndPKIDForPublicKeyBase58CheckOrUsername (utxoView : OrderBookView)
    (publicKeyBase58CheckOrUsername : String) : Except String (String × PKID) := do
  let publicKeyBytes ← utxoView.GetPubKeyAndProfileEntryForUsernameOrPublicKeyBase58Check
    publicKeyBase58CheckOrUsername
  let pkid := utxoView.GetPKIDForPublicKey publicKeyBytes
  let publicKeyBase58Check := utxoView.Base58CheckEncode publicKeyBytes
  return (publicKeyBase58Check, pkid)

/-- `getPublicKeyBase58CheckForPKID`: the empty key for the zero PKID. -/
def getPublicKeyBase58CheckForPKID (utxoView : OrderBookView) (pkid : PKID) : String :=
  if pkid ≠ ZeroPKID then utxoView.Base58CheckEncode (utxoView.GetPublicKeyForPKID pkid) else ""

/-- The block `GetDAOCoinLimitOrders` runs for each coin of the request (`which` is `DAOCoin1`
or `DAOCoin2`): $DESO, the empty key and the zero PKID, for an empty identifier, and otherwise
the key and PKID the identifier resolves to. -/
def getCoinPublicKeyBase58CheckAndPKID (utxoView : OrderBookView)
    (which coinPublicKeyBase58CheckOrUsername : String) : Except Failure (String × PKID) :=
  if coinPublicKeyBase58CheckOrUsername = "" then .ok ("", ZeroPKID)
  else match getPublicKeyBase58CheckAndPKIDForPublicKeyBase58CheckOrUsername utxoView
      coinPublicKeyBase58CheckOrUsername with
    | .error err => .error (.error ("GetDAOCoinLimitOrders: Invalid " ++ which ++
        "CreatorPublicKeyBase58CheckOrUsername: " ++ err))
    | .ok resolved => .ok resolved

/-- The query `GetDAOCoinLimitOrders` makes for each side of the pair. -/
def getDAOCoinLimitOrdersForCoinPair (utxoView : OrderBookView) (buyingPKID sellingPKID : PKID) :
    Except Failure (List BookOrder) :=
  match utxoView.GetAllDAOCoinLimitOrdersForThisDAOCoinPair buyingPKID sellingPKID with
  | .error err => .error (.error ("GetDAOCoinLimitOrders: Error getting limit orders: " ++ err))
  | .ok orders => .ok orders

section Endpoints

variable (C : OrderOperationTypeCodes) (ParseFloat : String → Except String Float64)

/-- `buildDAOCoinLimitOrderResponsesForTransactor`: each order shown with the keys of its coins'
PKIDs; an order whose response returns an error is logged and skipped. -/
def buildDAOCoinLimitOrderResponsesForTransactor (utxoView : OrderBookView)
    (transactorPublicKeyBase58Check : String) (orders : List BookOrder) :
    Except Failure (List DAOCoinLimitOrderEntryResponse) :=
  collectOrderResponses (fun order => buildDAOCoinLimitOrderResponse C ParseFloat
    transactorPublicKeyBase58Check
    (getPublicKeyBase58CheckForPKID utxoView order.BuyingDAOCoinCreatorPKID)
    (getPublicKeyBase58CheckForPKID utxoView order.SellingDAOCoinCreatorPKID) order.order) orders

/-- `GetDAOCoinLimitOrders`: the orders buying the first coin with the second, then those buying
the second with the first, each side shown with its buying coin's key first. -/
def GetDAOCoinLimitOrders (GetAugmentedUniversalView : Except String OrderBookView)
    (requestData : GetDAOCoinLimitOrdersRequest) :
    Except Failure (List DAOCoinLimitOrderEntryResponse) := do
  if requestData.DAOCoin1CreatorPublicKeyBase58CheckOrUsername = "" ∧
      requestData.DAOCoin2CreatorPublicKeyBase58CheckOrUsername = "" then
    throw (.error ("GetDAOCoinLimitOrders: Must provide either a " ++
      "DAOCoin1CreatorPublicKeyBase58CheckOrUsername or DAOCoin2CreatorPublicKeyBase58CheckOrUsername " ++
      "or both"))
  let utxoView ← GetAugmentedUniversalView.mapError fun err =>
    .error ("GetDAOCoinLimitOrders: Problem fetching utxoView: " ++ err)
  let (coin1ProfilePublicBase58Check, coin1PKID) ← getCoinPublicKeyBase58CheckAndPKID utxoView
    "DAOCoin1" requestData.DAOCoin1CreatorPublicKeyBase58CheckOrUsername
  let (coin2ProfilePublicBase58Check, coin2PKID) ← getCoinPublicKeyBase58CheckAndPKID utxoView
    "DAOCoin2" requestData.DAOCoin2CreatorPublicKeyBase58CheckOrUsername
  let ordersBuyingCoin1 ← getDAOCoinLimitOrdersForCoinPair utxoView coin1PKID coin2PKID
  let ordersBuyingCoin2 ← getDAOCoinLimitOrdersForCoinPair utxoView coin2PKID coin1PKID
  let responses1 ← buildDAOCoinLimitOrderResponsesFromEntriesForCoinPair C ParseFloat
    utxoView.transactorPublicKey coin1ProfilePublicBase58Check coin2ProfilePublicBase58Check
    (ordersBuyingCoin1.map (·.order))
  let responses2 ← buildDAOCoinLimitOrderResponsesFromEntriesForCoinPair C ParseFloat
    utxoView.transactorPublicKey coin2ProfilePublicBase58Check coin1ProfilePublicBase58Check
    (ordersBuyingCoin2.map (·.order))
  return responses1 ++ responses2

/-- `GetTransactorDAOCoinLimitOrders`: the orders of the transactor a key or username names. -/
def GetTransactorDAOCoinLimitOrders (GetAugmentedUniversalView : Except String OrderBookView)
    (requestData : GetTransactorDAOCoinLimitOrdersRequest) :
    Except Failure (List DAOCoinLimitOrderEntryResponse) := do
  let utxoView ← GetAugmentedUniversalView.mapError fun err =>
    .error ("GetTransactorDAOCoinLimitOrders: Problem fetching utxoView: " ++ err)
  let (transactorPublicKeyBase58Check, transactorPKID) ←
    (getPublicKeyBase58CheckAndPKIDForPublicKeyBase58CheckOrUsername utxoView
      requestData.TransactorPublicKeyBase58CheckOrUsername).mapError fun err =>
        .error ("GetTransactorDAOCoinLimitOrders: Invalid TransactorPublicKeyBase58CheckOrUsername: " ++
          err)
  let orders ← (utxoView.GetAllDAOCoinLimitOrdersForThisTransactor transactorPKID).mapError
    fun err => .error ("GetTransactorDAOCoinLimitOrders: Error getting limit orders: " ++ err)
  buildDAOCoinLimitOrderResponsesForTransactor C ParseFloat utxoView transactorPublicKeyBase58Check
    orders

/-! ### The view and the coins a request names -/

/-- What the agreement of the two listings needs of the view: a Base58Check key is never empty,
no public key has the PKID of $DESO, and the book of a pair holds only orders on that pair. -/
structure ConsistentOrderBookView (utxoView : OrderBookView) : Prop where
  Base58CheckEncode_ne_empty : ∀ publicKeyBytes, utxoView.Base58CheckEncode publicKeyBytes ≠ ""
  GetPKIDForPublicKey_ne_zero : ∀ publicKeyBytes,
    utxoView.GetPKIDForPublicKey publicKeyBytes ≠ ZeroPKID
  pair_book_coins : ∀ buyingPKID sellingPKID orders,
    utxoView.GetAllDAOCoinLimitOrdersForThisDAOCoinPair buyingPKID sellingPKID = .ok orders →
      ∀ order ∈ orders, order.BuyingDAOCoinCreatorPKID = buyingPKID ∧
        order.SellingDAOCoinCreatorPKID = sellingPKID

variable {utxoView : OrderBookView}

lemma getPublicKeyBase58CheckForPKID_eq_empty
    (hv : ∀ publicKeyBytes, utxoView.Base58CheckEncode publicKeyBytes ≠ "") (pkid : PKID) :
    getPublicKeyBase58CheckForPKID utxoView pkid = "" ↔ pkid = ZeroPKID := by
  unfold getPublicKeyBase58CheckForPKID
  by_cases h : pkid = ZeroPKID <;> simp [h, hv]

/-- A coin of the request is $DESO, with the empty key and the zero PKID, exactly when the
request leaves it empty. -/
lemma getCoinPublicKeyBase58CheckAndPKID_eq_ok (hv : ConsistentOrderBookView utxoView)
    {which coinPublicKeyBase58CheckOrUsername key : String} {pkid : PKID}
    (h : getCoinPublicKeyBase58CheckAndPKID utxoView which coinPublicKeyBase58CheckOrUsername =
      .ok (key, pkid)) :
    (key = "" ↔ coinPublicKeyBase58CheckOrUsername = "") ∧
      (pkid = ZeroPKID ↔ coinPublicKeyBase58CheckOrUsername = "") := by
  unfold getCoinPublicKeyBase58CheckAndPKID at h
  split_ifs at h with hid
  · cases h
    simp [hid]
  · unfold getPublicKeyBase58CheckAndPKIDForPublicKeyBase58CheckOrUsername at h
    cases hr : utxoView.GetPubKeyAndProfileEntryForUsernameOrPublicKeyBase58Check
      coinPublicKeyBase58CheckOrUsername with
    | error err => simp [hr, bind, Except.bind] at h
    | ok publicKeyBytes =>
      simp only [hr, bind, Except.bind, pure, Except.pure, Except.ok.injEq, Prod.mk.injEq] at h
      obtain ⟨rfl, rfl⟩ := h
      simp [hid, hv.Base58CheckEncode_ne_empty, hv.GetPKIDForPublicKey_ne_zero]

lemma getDAOCoinLimitOrdersForCoinPair_eq_ok {buyingPKID sellingPKID : PKID}
    {orders : List BookOrder} :
    getDAOCoinLimitOrdersForCoinPair utxoView buyingPKID sellingPKID = .ok orders ↔
      utxoView.GetAllDAOCoinLimitOrdersForThisDAOCoinPair buyingPKID sellingPKID = .ok orders := by
  unfold getDAOCoinLimitOrdersForCoinPair
  split <;> simp_all

/-! ### The two listings show an order alike -/

/-- Two responses show an order alike: the same rate, quantity, operation type and ID, and an
empty key for the same coins. -/
structure ShownAlike (r r' : DAOCoinLimitOrderEntryResponse) : Prop where
  rate : r.ExchangeRateCoinsToSellPerCoinToBuy = r'.ExchangeRateCoinsToSellPerCoinToBuy
  quantity : r.QuantityToFill = r'.QuantityToFill
  operationType : r.OperationType = r'.OperationType
  orderID : r.OrderID = r'.OrderID
  buying_empty : r.BuyingDAOCoinCreatorPublicKeyBase58Check = "" ↔
    r'.BuyingDAOCoinCreatorPublicKeyBase58Check = ""
  selling_empty : r.SellingDAOCoinCreatorPublicKeyBase58Check = "" ↔
    r'.SellingDAOCoinCreatorPublicKeyBase58Check = ""

/-- The pair listing, under keys that are empty for the zero PKID, shows each order of a pair's
book as the transactor listing shows it with the keys of the order's PKIDs. -/
lemma coinPair_transactor_shownAlike
    (hv : ∀ publicKeyBytes, utxoView.Base58CheckEncode publicKeyBytes ≠ "")
    {buying selling : String} {buyingPKID sellingPKID : PKID}
    (hb : buying = "" ↔ buyingPKID = ZeroPKID) (hs : selling = "" ↔ sellingPKID = ZeroPKID)
    (transactor : String) (orders : List BookOrder)
    (hcoins : ∀ order ∈ orders, order.BuyingDAOCoinCreatorPKID = buyingPKID ∧
      order.SellingDAOCoinCreatorPKID = sellingPKID) :
    List.Forall₂ ShownAlike
      (orders.filterMap fun order => (buildDAOCoinLimitOrderResponse C ParseFloat
        (utxoView.transactorPublicKey order.order) buying selling order.order).toOption)
      (orders.filterMap fun order => (buildDAOCoinLimitOrderResponse C ParseFloat transactor
        (getPublicKeyBase58CheckForPKID utxoView order.BuyingDAOCoinCreatorPKID)
        (getPublicKeyBase58CheckForPKID utxoView order.SellingDAOCoinCreatorPKID)
        order.order).toOption) := by
  induction orders with
  | nil => exact .nil
  | cons order orders ih =>
    have ih := ih fun o ho => hcoins o (List.mem_cons_of_mem _ ho)
    obtain ⟨hB, hS⟩ := hcoins order (List.mem_cons_self _ _)
    have hb' : getPublicKeyBase58CheckForPKID utxoView order.BuyingDAOCoinCreatorPKID = "" ↔
        buying = "" := by rw [hb, hB, getPublicKeyBase58CheckForPKID_eq_empty hv]
    have hs' : getPublicKeyBase58CheckForPKID utxoView order.SellingDAOCoinCreatorPKID = "" ↔
        selling = "" := by rw [hs, hS, getPublicKeyBase58CheckForPKID_eq_empty hv]
    rw [List.filterMap_cons, List.filterMap_cons,
      buildDAOCoinLimitOrderResponse_relabel C ParseFloat hb' hs']
    cases h : buildDAOCoinLimitOrderResponse C ParseFloat transactor
      (getPublicKeyBase58CheckForPKID utxoView order.BuyingDAOCoinCreatorPKID)
      (getPublicKeyBase58CheckForPKID utxoView order.SellingDAOCoinCreatorPKID) order.order with
    | error e => exact ih
    | ok r =>
      obtain ⟨-, hrb, hrs⟩ := buildDAOCoinLimitOrderResponse_keys C ParseFloat h
      exact .cons ⟨rfl, rfl, rfl, rfl, by rw [hrb]; exact hb'.symm, by rw [hrs]; exact hs'.symm⟩ ih

/-! ### The endpoints -/

/-- The pair endpoint returns a listing exactly when the request names a coin and each call
it makes returns. -/
lemma GetDAOCoinLimitOrders_eq_ok_iff {requestData : GetDAOCoinLimitOrdersRequest}
    {rs : List DAOCoinLimitOrderEntryResponse} :
    GetDAOCoinLimitOrders C ParseFloat (.ok utxoView) requestData = .ok rs ↔
      ¬(requestData.DAOCoin1CreatorPublicKeyBase58CheckOrUsername = "" ∧
        requestData.DAOCoin2CreatorPublicKeyBase58CheckOrUsername = "") ∧
      ∃ coin1, getCoinPublicKeyBase58CheckAndPKID utxoView "DAOCoin1"
          requestData.DAOCoin1CreatorPublicKeyBase58CheckOrUsername = .ok coin1 ∧
      ∃ coin2, getCoinPublicKeyBase58CheckAndPKID utxoView "DAOCoin2"
          requestData.DAOCoin2CreatorPublicKeyBase58CheckOrUsername = .ok coin2 ∧
      ∃ ordersBuyingCoin1,
        getDAOCoinLimitOrdersForCoinPair utxoView coin1.2 coin2.2 = .ok ordersBuyingCoin1 ∧
      ∃ ordersBuyingCoin2,
        getDAOCoinLimitOrdersForCoinPair utxoView coin2.2 coin1.2 = .ok ordersBuyingCoin2 ∧
      ∃ responses1, buildDAOCoinLimitOrderResponsesFromEntriesForCoinPair C ParseFloat
          utxoView.transactorPublicKey coin1.1 coin2.1 (ordersBuyingCoin1.map (·.order)) =
            .ok responses1 ∧
      ∃ responses2, buildDAOCoinLimitOrderResponsesFromEntriesForCoinPair C ParseFloat
          utxoView.transactorPublicKey coin2.1 coin1.1 (ordersBuyingCoin2.map (·.order)) =
            .ok responses2 ∧
      responses1 ++ responses2 = rs := by
  unfold GetDAOCoinLimitOrders
  split_ifs with hc
  · simp only [hc, and_self, not_true_eq_false, false_and, iff_false, exceptBind_eq_ok, throw,
      throwThe, MonadExceptOf.throw, reduceCtorEq, exists_false, not_false_eq_true]
  · simp only [hc, not_false_eq_true, true_and, exceptBind_eq_ok, Except.mapError,
      Except.ok.injEq, exists_eq_left, exists_eq_left', exists_const, pure, Except.pure]

/-- On a consistent view, the pair endpoint marks $DESO as the request does and shows the orders
of the pair's two books as the transactor listing shows them, whatever transactor key it is
given: the same rate, quantity, operation type and ID, in the same order, and an empty key for
the same coins. -/
theorem GetDAOCoinLimitOrders_shown_alike (hv : ConsistentOrderBookView utxoView)
    {requestData : GetDAOCoinLimitOrdersRequest} {rs : List DAOCoinLimitOrderEntryResponse}
    (h : GetDAOCoinLimitOrders C ParseFloat (.ok utxoView) requestData = .ok rs) :
    ∃ coin1PKID coin2PKID ordersBuyingCoin1 ordersBuyingCoin2,
      (coin1PKID = ZeroPKID ↔ requestData.DAOCoin1CreatorPublicKeyBase58CheckOrUsername = "") ∧
      (coin2PKID = ZeroPKID ↔ requestData.DAOCoin2CreatorPublicKeyBase58CheckOrUsername = "") ∧
      utxoView.GetAllDAOCoinLimitOrdersForThisDAOCoinPair coin1PKID coin2PKID =
        .ok ordersBuyingCoin1 ∧
      utxoView.GetAllDAOCoinLimitOrdersForThisDAOCoinPair coin2PKID coin1PKID =
        .ok ordersBuyingCoin2 ∧
      ∀ transactorPublicKeyBase58Check, ∃ ts,
        buildDAOCoinLimitOrderResponsesForTransactor C ParseFloat utxoView
          transactorPublicKeyBase58Check (ordersBuyingCoin1 ++ ordersBuyingCoin2) = .ok ts ∧
        List.Forall₂ ShownAlike rs ts := by
  obtain ⟨-, ⟨key1, pkid1⟩, h1, ⟨key2, pkid2⟩, h2, orders1, ho1, orders2, ho2, r1, hr1, r2, hr2,
    rfl⟩ := (GetDAOCoinLimitOrders_eq_ok_iff C ParseFloat).mp h
  rw [getDAOCoinLimitOrdersForCoinPair_eq_ok] at ho1 ho2
  obtain ⟨hk1, hp1⟩ := getCoinPublicKeyBase58CheckAndPKID_eq_ok hv h1
  obtain ⟨hk2, hp2⟩ := getCoinPublicKeyBase58CheckAndPKID_eq_ok hv h2
  have hall := buildDAOCoinLimitOrderResponse_ok_or_error C ParseFloat
  unfold buildDAOCoinLimitOrderResponsesFromEntriesForCoinPair at hr1 hr2
  rw [collectOrderResponses_eq fun _ => hall _ _ _ _, Except.ok.injEq, List.filterMap_map] at hr1 hr2
  refine ⟨pkid1, pkid2, orders1, orders2, hp1, hp2, ho1, ho2, fun transactor =>
    ⟨_, collectOrderResponses_eq (fun _ => hall _ _ _ _) _, ?_⟩⟩
  rw [← hr1, ← hr2, List.filterMap_append]
  exact List.rel_append
    (coinPair_transactor_shownAlike C ParseFloat hv.Base58CheckEncode_ne_empty (hk1.trans hp1.symm)
      (hk2.trans hp2.symm) transactor orders1 (hv.pair_book_coins _ _ _ ho1))
    (coinPair_transactor_shownAlike C ParseFloat hv.Base58CheckEncode_ne_empty (hk2.trans hp2.symm)
      (hk1.trans hp1.symm) transactor orders2 (hv.pair_book_coins _ _ _ ho2))

end Endpoints

/-- The PKID a sample view gives a public key: never the zero PKID, which starts with a zero. -/
def sampleBookPKID (publicKeyBytes : Bytes) : PKID :=
  ⟨'p' :: (publicKeyBytes ++ List.replicate 32 'x').take 32, by simp⟩

/-- A view whose book holds one order on each pair, asking `1.0` $DESO per coin for `1.0` coin. -/
def sampleOrderBookView : OrderBookView where
  GetPubKeyAndProfileEntryForUsernameOrPublicKeyBase58Check identifier := .ok identifier.data
  GetPKIDForPublicKey := sampleBookPKID
  GetPublicKeyForPKID pkid := pkid.bytes
  Base58CheckEncode publicKeyBytes := ⟨'k' :: publicKeyBytes⟩
  GetAllDAOCoinLimitOrdersForThisDAOCoinPair buyingPKID sellingPKID :=
    .ok [⟨samplePlacedOrder, buyingPKID, sellingPKID⟩]
  GetAllDAOCoinLimitOrdersForThisTransactor _ := .ok []
  transactorPublicKey _ := "t"

lemma sampleOrderBookView_consistent : ConsistentOrderBookView sampleOrderBookView where
  Base58CheckEncode_ne_empty _ h := List.cons_ne_nil _ _ (congrArg String.data h)
  GetPKIDForPublicKey_ne_zero _ := by simp [sampleOrderBookView, sampleBookPKID, ZeroPKID]
  pair_book_coins _ _ _ h := by
    simp only [sampleOrderBookView, Except.ok.injEq] at h
    subst h
    simp

/-- The sample order as the pair endpoint lists it for coin `a` against $DESO. -/
def sampleListing : List DAOCoinLimitOrderEntryResponse :=
  [⟨"t", "ka", "", Float64.one, Float64.one, "ASK", "order"⟩,
    ⟨"t", "", "ka", Float64.one, Float64.one, "ASK", "order"⟩]

theorem GetDAOCoinLimitOrders_shown_alike_sample :
    ConsistentOrderBookView sampleOrderBookView ∧
      GetDAOCoinLimitOrders sampleOperationTypeCodes (fun _ => .ok Float64.one)
        (.ok sampleOrderBookView) ⟨"a", ""⟩ = .ok sampleListing ∧
      ∃ coin1PKID coin2PKID ordersBuyingCoin1 ordersBuyingCoin2,
        (coin1PKID = ZeroPKID ↔ "a" = "") ∧ (coin2PKID = ZeroPKID ↔ "" = "") ∧
        sampleOrderBookView.GetAllDAOCoinLimitOrdersForThisDAOCoinPair coin1PKID coin2PKID =
          .ok ordersBuyingCoin1 ∧
        sampleOrderBookView.GetAllDAOCoinLimitOrdersForThisDAOCoinPair coin2PKID coin1PKID =
          .ok ordersBuyingCoin2 ∧
        ∀ transactorPublicKeyBase58Check, ∃ ts,
          buildDAOCoinLimitOrderResponsesForTransactor sampleOperationTypeCodes
            (fun _ => .ok Float64.one) sampleOrderBookView transactorPublicKeyBase58Check
            (ordersBuyingCoin1 ++ ordersBuyingCoin2) = .ok ts ∧
          List.Forall₂ ShownAlike sampleListing ts :=
  have hrun : GetDAOCoinLimitOrders sampleOperationTypeCodes (fun _ => .ok Float64.one)
      (.ok sampleOrderBookView) ⟨"a", ""⟩ = .ok sampleListing := rfl
  ⟨sampleOrderBookView_consistent, hrun,
    GetDAOCoinLimitOrders_shown_alike _ _ sampleOrderBookView_consistent hrun⟩

end DesoBackend
