import DesoBackend.Exchange.RoundTrip

/-!
# Order book responses

`buildDAOCoinLimitOrderResponse` shows an order of the book with the floats and the operation
type a client places orders with. The operation type goes through `orderOperationTypeToString`,
the inverse of `orderOperationTypeToUint64`; the rate and the quantity go through the read path
of the converters, which neither panics nor runs forever on any value of the book. So the
read-only endpoints skip an order only when a conversion returns an error, and an order placed
from a price, a quantity and an operation type is shown with that operation type and with
what `strconv.ParseFloat` reads from numerals denoting the placed values.
-/

namespace DesoBackend

/-- The codes `lib` gives the two operation types of a limit order. -/
structure OrderOperationTypeCodes where
  DAOCoinLimitOrderOperationTypeASK : UInt8
  DAOCoinLimitOrderOperationTypeBID : UInt8
  ask_ne_bid : DAOCoinLimitOrderOperationTypeASK ≠ DAOCoinLimitOrderOperationTypeBID

/-- The fields of a `lib.DAOCoinLimitOrderEntry` its response reads; `OrderID` is the order's
`BlockHash` as `String()` prints it. -/
structure DAOCoinLimitOrderEntry where
  OrderID : String
  ScaledExchangeRateCoinsToSellPerCoinToBuy : BitVec 256
  QuantityToFillInBaseUnits : BitVec 256
  OperationType : UInt8

structure DAOCoinLimitOrderEntryResponse where
  TransactorPublicKeyBase58Check : String
  BuyingDAOCoinCreatorPublicKeyBase58Check : String
  SellingDAOCoinCreatorPublicKeyBase58Check : String
  ExchangeRateCoinsToSellPerCoinToBuy : Float64
  QuantityToFill : Float64
  OperationType : String
  OrderID : String

section Orders

variable (C : OrderOperationTypeCodes) (ParseFloat : String → Except String Float64)

def orderOperationTypeToString (operationType : UInt8) : Except String String :=
  if operationType = C.DAOCoinLimitOrderOperationTypeASK then
    .ok DAOCoinLimitOrderOperationTypeStringASK
  else if operationType = C.DAOCoinLimitOrderOperationTypeBID then
    .ok DAOCoinLimitOrderOperationTypeStringBID
  else .error ("Unknown DAOCoinLimitOrderOperationType " ++ toString operationType)

def orderOperationTypeToUint64 (operationType : String) : Except String UInt8 :=
  if operationType = DAOCoinLimitOrderOperationTypeStringASK then
    .ok C.DAOCoinLimitOrderOperationTypeASK
  else if operationType = DAOCoinLimitOrderOperationTypeStringBID then
    .ok C.DAOCoinLimitOrderOperationTypeBID
  else .error ("Unknown string value for DAOCoinLimitOrderOperationType " ++ operationType)

def buildDAOCoinLimitOrderResponse (transactorPublicKeyBase58Check buyingCoinPublicKeyBase58Check
      sellingCoinPublicKeyBase58Check : String) (order : DAOCoinLimitOrderEntry) :
    Except Failure DAOCoinLimitOrderEntryResponse := do
  let operationTypeString ← (orderOperationTypeToString C order.OperationType).mapError .error
  let exchangeRate ← CalculateExchangeRateAsFloat ParseFloat buyingCoinPublicKeyBase58Check
    sellingCoinPublicKeyBase58Check order.ScaledExchangeRateCoinsToSellPerCoinToBuy
  let quantityToFill ← CalculateQuantityToFillAsFloat ParseFloat buyingCoinPublicKeyBase58Check
    sellingCoinPublicKeyBase58Check operationTypeString order.QuantityToFillInBaseUnits
  return {
    TransactorPublicKeyBase58Check := transactorPublicKeyBase58Check
    BuyingDAOCoinCreatorPublicKeyBase58Check := buyingCoinPublicKeyBase58Check
    SellingDAOCoinCreatorPublicKeyBase58Check := sellingCoinPublicKeyBase58Check
    ExchangeRateCoinsToSellPerCoinToBuy := exchangeRate
    QuantityToFill := quantityToFill
    OperationType := operationTypeString
    OrderID := order.OrderID }

/-- The loop of both order listings: the response `build` gives each order is appended, and an
order whose response returns an error is skipped. -/
def collectOrderResponses {α : Type} (build : α → Except Failure DAOCoinLimitOrderEntryResponse) :
    List α → Except Failure (List DAOCoinLimitOrderEntryResponse)
  | [] => .ok []
  | order :: orders =>
    match build order with
    | .ok response => (response :: ·) <$> collectOrderResponses build orders
    | .error (.error _) => collectOrderResponses build orders
    | .error e => .error e

/-- `buildDAOCoinLimitOrderResponsesFromEntriesForCoinPair`; `transactorPublicKey` is the
Base58Check key of the order's transactor. -/
def buildDAOCoinLimitOrderResponsesFromEntriesForCoinPair
    (transactorPublicKey : DAOCoinLimitOrderEntry → String)
    (buyingCoinPublicKeyBase58Check sellingCoinPublicKeyBase58Check : String)
    (orders : List DAOCoinLimitOrderEntry) : Except Failure (List DAOCoinLimitOrderEntryResponse) :=
  collectOrderResponses (fun order => buildDAOCoinLimitOrderResponse C ParseFloat
    (transactorPublicKey order) buyingCoinPublicKeyBase58Check sellingCoinPublicKeyBase58Check
    order) orders

/-- The two conversions are inverse to each other on the codes and names they accept. -/
theorem orderOperationTypeToString_eq_ok_iff {t : UInt8} {s : String} :
    orderOperationTypeToString C t = .ok s ↔ orderOperationTypeToUint64 C s = .ok t := by
  have hab := C.ask_ne_bid
  unfold orderOperationTypeToString orderOperationTypeToUint64
  split_ifs <;> simp_all [DAOCoinLimitOrderOperationTypeStringASK,
    DAOCoinLimitOrderOperationTypeStringBID, eq_comm]

lemma parseFloatResult_cases (str : String) :
    (∃ r, parseFloatResult ParseFloat str = .ok r) ∨
      ∃ msg, parseFloatResult ParseFloat str = .error (.error msg) := by
  unfold parseFloatResult
  split
  · exact .inl ⟨_, rfl⟩
  · exact .inr ⟨_, rfl⟩

lemma quantityToFillString_ok (buying selling op : String) (q : BitVec 256) :
    ∃ s, quantityToFillString buying selling op q = .ok s :=
  let ⟨_, s, hs, _⟩ := quantityToFillDecimalString_value q
    (BitVec.ofNat 256 (quantityScalingFactor buying selling op)) _
    ((toNat_ofNat_quantityScalingFactor buying selling op).trans
      (quantityScalingFactor_eq buying selling op))
  ⟨s, hs⟩

/-- The response of an order is built from the numerals of its rate and quantity, which are
built for every value of the book: it fails only where a conversion returns an error. -/
lemma buildDAOCoinLimitOrderResponse_eq (transactor buying selling : String)
    (order : DAOCoinLimitOrderEntry) :
    ∃ s, exchangeRateDecimalString buying selling order.ScaledExchangeRateCoinsToSellPerCoinToBuy =
        .ok s ∧
      buildDAOCoinLimitOrderResponse C ParseFloat transactor buying selling order = do
        let operationTypeString ← (orderOperationTypeToString C order.OperationType).mapError .error
        let exchangeRate ← parseFloatResult ParseFloat s
        let quantityToFill ← quantityToFillString buying selling operationTypeString
          order.QuantityToFillInBaseUnits >>= parseFloatResult ParseFloat
        return ⟨transactor, buying, selling, exchangeRate, quantityToFill, operationTypeString,
          order.OrderID⟩ := by
  obtain ⟨-, s, hs, -⟩ := exchangeRateDecimalString_value buying selling
    order.ScaledExchangeRateCoinsToSellPerCoinToBuy
  refine ⟨s, hs, ?_⟩
  simp only [buildDAOCoinLimitOrderResponse, CalculateExchangeRateAsFloat, hs,
    CalculateQuantityToFillAsFloat_eq, bind, Except.bind]

/-- The response of any order of the book is built or returns an error: the read path
neither panics nor runs forever. -/
theorem buildDAOCoinLimitOrderResponse_ok_or_error (transactor buying selling : String)
    (order : DAOCoinLimitOrderEntry) :
    (∃ r, buildDAOCoinLimitOrderResponse C ParseFloat transactor buying selling order = .ok r) ∨
      ∃ msg, buildDAOCoinLimitOrderResponse C ParseFloat transactor buying selling order =
        .error (.error msg) := by
  obtain ⟨s, -, hb⟩ := buildDAOCoinLimitOrderResponse_eq C ParseFloat transactor buying selling order
  rw [hb]
  cases orderOperationTypeToString C order.OperationType with
  | error msg => exact .inr ⟨msg, rfl⟩
  | ok op =>
    obtain ⟨q, hq⟩ := quantityToFillString_ok buying selling op order.QuantityToFillInBaseUnits
    rcases parseFloatResult_cases ParseFloat s with ⟨r, hr⟩ | ⟨m, hr⟩ <;>
      simp only [Except.mapError, hr, hq, bind, Except.bind]
    · rcases parseFloatResult_cases ParseFloat q with ⟨r', hr'⟩ | ⟨m', hr'⟩ <;> rw [hr']
      · exact .inl ⟨_, rfl⟩
      · exact .inr ⟨m', rfl⟩
    · exact .inr ⟨m, rfl⟩

def relabelResponse (transactor buying selling : String) (r : DAOCoinLimitOrderEntryResponse) :
    DAOCoinLimitOrderEntryResponse :=
  { r with
    TransactorPublicKeyBase58Check := transactor
    BuyingDAOCoinCreatorPublicKeyBase58Check := buying
    SellingDAOCoinCreatorPublicKeyBase58Check := selling }

/-- The response of an order reads the coins' keys only through which of them is $DESO: under
keys that agree on that, it is the same response shown under the other keys. -/
lemma buildDAOCoinLimitOrderResponse_relabel {transactor buying selling transactor' buying'
      selling' : String} (hb : buying = "" ↔ buying' = "") (hs : selling = "" ↔ selling' = "")
    (order : DAOCoinLimitOrderEntry) :
    buildDAOCoinLimitOrderResponse C ParseFloat transactor' buying' selling' order =
      relabelResponse transactor' buying' selling' <$>
        buildDAOCoinLimitOrderResponse C ParseFloat transactor buying selling order := by
  simp only [buildDAOCoinLimitOrderResponse, CalculateExchangeRateAsFloat,
    exchangeRateDecimalString, CalculateQuantityToFillAsFloat, exchangeRateBigInt_congr hb hs,
    isCoinToFillDESO_congr hb hs, map_bind, map_pure]
  rfl

lemma buildDAOCoinLimitOrderResponse_keys {transactor buying selling : String}
    {order : DAOCoinLimitOrderEntry} {r : DAOCoinLimitOrderEntryResponse}
    (h : buildDAOCoinLimitOrderResponse C ParseFloat transactor buying selling order = .ok r) :
    r.TransactorPublicKeyBase58Check = transactor ∧
      r.BuyingDAOCoinCreatorPublicKeyBase58Check = buying ∧
      r.SellingDAOCoinCreatorPublicKeyBase58Check = selling := by
  have hself : buildDAOCoinLimitOrderResponse C ParseFloat transactor buying selling order =
      relabelResponse transactor buying selling <$>
        buildDAOCoinLimitOrderResponse C ParseFloat transactor buying selling order :=
    buildDAOCoinLimitOrderResponse_relabel C ParseFloat Iff.rfl Iff.rfl order
  rw [h] at hself
  rw [Except.ok.inj hself]
  exact ⟨rfl, rfl, rfl⟩

/-- A listing whose responses are each built or return an error never fails: it holds, in
order, the responses that are built. -/
lemma collectOrderResponses_eq {α : Type} {build : α → Except Failure DAOCoinLimitOrderEntryResponse}
    (hbuild : ∀ order, (∃ r, build order = .ok r) ∨ ∃ msg, build order = .error (.error msg))
    (orders : List α) :
    collectOrderResponses build orders = .ok (orders.filterMap fun order => (build order).toOption) := by
  induction orders with
  | nil => rfl
  | cons order orders ih =>
    rcases hbuild order with ⟨r, hr⟩ | ⟨m, hr⟩ <;>
      simp only [collectOrderResponses, hr, ih, List.filterMap_cons, Except.toOption]
    rfl

/-- The read-only listing never fails: it holds, in order, the responses of the orders whose
response is built, and skips the others. -/
theorem buildDAOCoinLimitOrderResponsesFromEntriesForCoinPair_eq
    (transactorPublicKey : DAOCoinLimitOrderEntry → String) (buying selling : String)
    (orders : List DAOCoinLimitOrderEntry) :
    buildDAOCoinLimitOrderResponsesFromEntriesForCoinPair C ParseFloat transactorPublicKey buying
        selling orders =
      .ok (orders.filterMap fun order => (buildDAOCoinLimitOrderResponse C ParseFloat
        (transactorPublicKey order) buying selling order).toOption) :=
  collectOrderResponses_eq (fun order => buildDAOCoinLimitOrderResponse_ok_or_error C ParseFloat
    (transactorPublicKey order) buying selling order) orders

/-- An order placed from a price `f`, a quantity `g` and an operation type `op` is shown with
`op`, and with what `strconv.ParseFloat` reads from a numeral denoting the printed price and
from one denoting the printed quantity cut to the scaling factor of the coin it is in. -/
theorem buildDAOCoinLimitOrderResponse_of_placed {transactor buying selling op : String}
    {f g : Float64} {order : DAOCoinLimitOrderEntry}
    (hop : orderOperationTypeToUint64 C op = .ok order.OperationType)
    (hS : CalculateScaledExchangeRate buying selling f =
      .ok order.ScaledExchangeRateCoinsToSellPerCoinToBuy)
    (hQ : CalculateQuantityToFillAsBaseUnits buying selling op g =
      .ok order.QuantityToFillInBaseUnits) :
    ∃ s s', decimalValue s = some (printedValue f) ∧
      decimalValue s' = some ((⌊printedValue g * quantityScalingFactor buying selling op⌋₊ : ℚ) /
        quantityScalingFactor buying selling op) ∧
      buildDAOCoinLimitOrderResponse C ParseFloat transactor buying selling order = do
        let exchangeRate ← parseFloatResult ParseFloat s
        let quantityToFill ← parseFloatResult ParseFloat s'
        return ⟨transactor, buying, selling, exchangeRate, quantityToFill, op, order.OrderID⟩ := by
  obtain ⟨s, hs, hv⟩ := exchangeRateDecimalString_of_scaled hS
  obtain ⟨s', hs', hv'⟩ := quantityToFillString_of_scaled hQ
  obtain ⟨_, hs₁, hb⟩ := buildDAOCoinLimitOrderResponse_eq C ParseFloat transactor buying selling
    order
  rw [hs, Except.ok.injEq] at hs₁
  subst hs₁
  refine ⟨_, s', hv, hv', ?_⟩
  rw [hb, (orderOperationTypeToString_eq_ok_iff C).mpr hop]
  simp only [Except.mapError, hs', bind, Except.bind]

end Orders

def sampleOperationTypeCodes : OrderOperationTypeCodes := ⟨1, 2, by decide⟩

/-- An order placed at `1.0` $DESO per coin, asking for `1.0` coin. -/
def samplePlacedOrder : DAOCoinLimitOrderEntry :=
  ⟨"order", BitVec.ofNat 256 (10 ^ 29), BitVec.ofNat 256 (10 ^ 9), 1⟩

theorem buildDAOCoinLimitOrderResponse_of_placed_sample :
    orderOperationTypeToUint64 sampleOperationTypeCodes "ASK" =
        .ok samplePlacedOrder.OperationType ∧
      CalculateScaledExchangeRate "a" "" Float64.one =
        .ok samplePlacedOrder.ScaledExchangeRateCoinsToSellPerCoinToBuy ∧
      CalculateQuantityToFillAsBaseUnits "a" "" "ASK" Float64.one =
        .ok samplePlacedOrder.QuantityToFillInBaseUnits ∧
      ∃ s s', decimalValue s = some (printedValue Float64.one) ∧
        decimalValue s' = some ((⌊printedValue Float64.one * quantityScalingFactor "a" "" "ASK"⌋₊ : ℚ) /
          quantityScalingFactor "a" "" "ASK") ∧
        buildDAOCoinLimitOrderResponse sampleOperationTypeCodes (fun _ => .ok Float64.one) "t" "a" ""
            samplePlacedOrder = do
          let exchangeRate ← parseFloatResult (fun _ => .ok Float64.one) s
          let quantityToFill ← parseFloatResult (fun _ => .ok Float64.one) s'
          return ⟨"t", "a", "", exchangeRate, quantityToFill, "ASK", samplePlacedOrder.OrderID⟩ :=
  ⟨rfl, rfl, rfl, buildDAOCoinLimitOrderResponse_of_placed sampleOperationTypeCodes
    (fun _ => .ok Float64.one) rfl rfl rfl⟩

end DesoBackend
