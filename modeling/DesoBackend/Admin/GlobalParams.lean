import Mathlib.Data.Int.Defs
import Mathlib.Algebra.Group.Int

/-!
# Updating the global parameters

`UpdateGlobalParams` puts a new value for a global parameter into its transaction only when
the request asks for a non-negative value other than the current one, and `-1` otherwise; a
negative value of the transaction leaves the parameter as it stands. Dropping the unchanged
values loses nothing: after the transaction every parameter holds the requested value when
one is requested, and its old value otherwise.
-/

namespace DesoBackend

/-- The parameters of `lib.GlobalParamsEntry` that `UpdateGlobalParams` sets. -/
structure GlobalParamsEntry where
  USDCentsPerBitcoin : UInt64
  CreateProfileFeeNanos : UInt64
  CreateNFTFeeNanos : UInt64
  MaxCopiesPerNFT : UInt64
  MinimumNetworkFeeNanosPerKB : UInt64

/-- The new values of an `UpdateGlobalParamsRequest`, each an `int64`. -/
structure UpdateGlobalParamsRequest where
  USDCentsPerBitcoin : Int
  CreateProfileFeeNanos : Int
  CreateNFTFeeNanos : Int
  MaxCopiesPerNFT : Int
  MinimumNetworkFeeNanosPerKB : Int

/-- The values `UpdateGlobalParams` hands to `CreateUpdateGlobalParamsTxn`. -/
structure GlobalParamsUpdate where
  usdCentsPerBitcoin : Int
  createProfileFeeNanos : Int
  createNFTFeeNanos : Int
  maxCopiesPerNFT : Int
  minimumNetworkFeeNanosPerKb : Int

/-- One parameter of the transaction: the requested value when it is non-negative and not the
current one, `-1` otherwise. -/
def updatedGlobalParam (requested : Int) (current : UInt64) : Int :=
  if 0 ≤ requested ∧ requested.toNat ≠ current.toNat then requested else -1

/-- The values `UpdateGlobalParams` computes from the request and the view's parameters. -/
def UpdateGlobalParams (requestData : UpdateGlobalParamsRequest)
    (globalParamsEntry : GlobalParamsEntry) : GlobalParamsUpdate where
  usdCentsPerBitcoin :=
    updatedGlobalParam requestData.USDCentsPerBitcoin globalParamsEntry.USDCentsPerBitcoin
  createProfileFeeNanos :=
    updatedGlobalParam requestData.CreateProfileFeeNanos globalParamsEntry.CreateProfileFeeNanos
  createNFTFeeNanos :=
    updatedGlobalParam requestData.CreateNFTFeeNanos globalParamsEntry.CreateNFTFeeNanos
  maxCopiesPerNFT :=
    updatedGlobalParam requestData.MaxCopiesPerNFT globalParamsEntry.MaxCopiesPerNFT
  minimumNetworkFeeNanosPerKb := updatedGlobalParam requestData.MinimumNetworkFeeNanosPerKB
    globalParamsEntry.MinimumNetworkFeeNanosPerKB

/-- How a value of the transaction sets one parameter when `lib` connects it: a negative value
is left out of the transaction ("Values less than 0 are excluded"), so the parameter stays. -/
def applyGlobalParam (current : UInt64) (value : Int) : UInt64 :=
  if value < 0 then current else UInt64.ofNat value.toNat

def applyGlobalParamsUpdate (globalParamsEntry : GlobalParamsEntry) (update : GlobalParamsUpdate) :
    GlobalParamsEntry where
  USDCentsPerBitcoin := applyGlobalParam globalParamsEntry.USDCentsPerBitcoin update.usdCentsPerBitcoin
  CreateProfileFeeNanos :=
    applyGlobalParam globalParamsEntry.CreateProfileFeeNanos update.createProfileFeeNanos
  CreateNFTFeeNanos := applyGlobalParam globalParamsEntry.CreateNFTFeeNanos update.createNFTFeeNanos
  MaxCopiesPerNFT := applyGlobalParam globalParamsEntry.MaxCopiesPerNFT update.maxCopiesPerNFT
  MinimumNetworkFeeNanosPerKB := applyGlobalParam globalParamsEntry.MinimumNetworkFeeNanosPerKB
    update.minimumNetworkFeeNanosPerKb

/-- What a request asks of one parameter: the requested value when it is non-negative. -/
def requestedGlobalParam (current : UInt64) (requested : Int) : UInt64 :=
  if requested < 0 then current else UInt64.ofNat requested.toNat

lemma applyGlobalParam_updatedGlobalParam (requested : Int) (current : UInt64) :
    applyGlobalParam current (updatedGlobalParam requested current) =
      requestedGlobalParam current requested := by
  have hkeep : applyGlobalParam current (-1) = current := if_pos (by omega)
  unfold updatedGlobalParam requestedGlobalParam
  by_cases hn : requested < 0
  · rw [if_neg (show ¬(0 ≤ requested ∧ requested.toNat ≠ current.toNat) by omega), hkeep,
      if_pos hn]
  · rw [if_neg hn]
    by_cases hc : requested.toNat = current.toNat
    · rw [if_neg (show ¬(0 ≤ requested ∧ requested.toNat ≠ current.toNat) by omega), hkeep, hc]
      exact UInt64.toNat.inj (UInt64.toNat_ofNat_of_lt (UInt64.toNat_lt_size current)).symm
    · rw [if_pos (show 0 ≤ requested ∧ requested.toNat ≠ current.toNat from ⟨by omega, hc⟩)]
      exact if_neg hn

/-- Sending only the changed values loses nothing: every parameter ends at the requested value
when a non-negative one is requested, and keeps its value otherwise. -/
theorem applyGlobalParamsUpdate_UpdateGlobalParams (requestData : UpdateGlobalParamsRequest)
    (globalParamsEntry : GlobalParamsEntry) :
    applyGlobalParamsUpdate globalParamsEntry (UpdateGlobalParams requestData globalParamsEntry) =
      ⟨requestedGlobalParam globalParamsEntry.USDCentsPerBitcoin requestData.USDCentsPerBitcoin,
        requestedGlobalParam globalParamsEntry.CreateProfileFeeNanos
          requestData.CreateProfileFeeNanos,
        requestedGlobalParam globalParamsEntry.CreateNFTFeeNanos requestData.CreateNFTFeeNanos,
        requestedGlobalParam globalParamsEntry.MaxCopiesPerNFT requestData.MaxCopiesPerNFT,
        requestedGlobalParam globalParamsEntry.MinimumNetworkFeeNanosPerKB
          requestData.MinimumNetworkFeeNanosPerKB⟩ := by
  simp only [applyGlobalParamsUpdate, UpdateGlobalParams, applyGlobalParam_updatedGlobalParam]

/-- A parameter already at its requested `int64` value is left out of the next transaction. -/
lemma updatedGlobalParam_requestedGlobalParam {requested : Int} (hr : requested < 2 ^ 63)
    (current : UInt64) : updatedGlobalParam requested (requestedGlobalParam current requested) = -1 := by
  unfold updatedGlobalParam requestedGlobalParam
  by_cases hn : requested < 0
  · exact if_neg fun h => by omega
  · rw [if_neg hn, UInt64.toNat_ofNat_of_lt (show requested.toNat < 2 ^ 64 by omega)]
    exact if_neg fun h => h.2 rfl

/-- Sending a request again once its transaction is applied builds a transaction that changes
nothing: every value of an `int64` request is then `-1`. -/
theorem UpdateGlobalParams_idempotent (requestData : UpdateGlobalParamsRequest)
    (globalParamsEntry : GlobalParamsEntry)
    (hr : requestData.USDCentsPerBitcoin < 2 ^ 63 ∧ requestData.CreateProfileFeeNanos < 2 ^ 63 ∧
      requestData.CreateNFTFeeNanos < 2 ^ 63 ∧ requestData.MaxCopiesPerNFT < 2 ^ 63 ∧
      requestData.MinimumNetworkFeeNanosPerKB < 2 ^ 63) :
    UpdateGlobalParams requestData
        (applyGlobalParamsUpdate globalParamsEntry (UpdateGlobalParams requestData globalParamsEntry)) =
      ⟨-1, -1, -1, -1, -1⟩ := by
  obtain ⟨h1, h2, h3, h4, h5⟩ := hr
  simp only [UpdateGlobalParams, applyGlobalParamsUpdate, applyGlobalParam_updatedGlobalParam,
    updatedGlobalParam_requestedGlobalParam, h1, h2, h3, h4, h5]

theorem UpdateGlobalParams_idempotent_price :
    ((5000000 : Int) < 2 ^ 63 ∧ (-1 : Int) < 2 ^ 63 ∧ (-1 : Int) < 2 ^ 63 ∧ (-1 : Int) < 2 ^ 63 ∧
        (-1 : Int) < 2 ^ 63) ∧
      UpdateGlobalParams ⟨5000000, -1, -1, -1, -1⟩
          (applyGlobalParamsUpdate ⟨0, 0, 0, 0, 0⟩
            (UpdateGlobalParams ⟨5000000, -1, -1, -1, -1⟩ ⟨0, 0, 0, 0, 0⟩)) =
        ⟨-1, -1, -1, -1, -1⟩ :=
  ⟨by decide, UpdateGlobalParams_idempotent ⟨5000000, -1, -1, -1, -1⟩ ⟨0, 0, 0, 0, 0⟩ (by decide)⟩

end DesoBackend
