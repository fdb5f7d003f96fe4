import NewApi.Lib.BulkStatements

/-!
# Rows of the referral tables

`model/referral.go`.  Every amount is an integer number of the smallest unit
that the columns hold, 10⁻⁸ of the settlement currency, and so is every rate;
`roundMoney` is the identity on them.  Columns that no modelled function reads
are left out.
-/

namespace NewApi.Referral

inductive AffiliateStatus where
  | pending
  | approved
  | rejected
  | disabled
  deriving DecidableEq, Repr

structure ReferralAffiliate where
  id : Int
  userId : Int
  inviteCode : String
  status : AffiliateStatus
  acquisitionEnabled : Bool
  settlementEnabled : Bool
  withdrawalEnabled : Bool
  deriving DecidableEq, Repr

inductive BindSource where
  | code
  | cookie
  deriving DecidableEq, Repr

structure ReferralBinding where
  inviteeUserId : Int
  inviterUserId : Int
  affiliateId : Int
  bindSource : BindSource
  bindCode : String
  deriving DecidableEq, Repr

structure ReferralCommissionAccount where
  affiliateId : Int
  userId : Int
  pendingAmount : Int := 0
  availableAmount : Int := 0
  frozenAmount : Int := 0
  withdrawnAmount : Int := 0
  deriving DecidableEq, Repr

inductive SourceType where
  | topup
  | subscription
  | redemption
  deriving DecidableEq, Repr

def SourceType.text : SourceType → String
  | .topup => "topup"
  | .subscription => "subscription"
  | .redemption => "redemption"

inductive CommissionStatus where
  | pending
  | available
  | frozen
  | paid
  deriving DecidableEq, Repr

structure ReferralCommission where
  id : Int
  affiliateId : Int
  affiliateUserId : Int
  inviteeUserId : Int
  sourceType : SourceType
  sourceOrderId : Int
  sourceTradeNo : String
  settlementCurrency : String
  settlementBaseAmount : Int
  rate : Int
  commissionAmount : Int
  status : CommissionStatus
  settleAt : Int
  availableAt : Int := 0
  frozenAt : Int := 0
  createdAt : Int
  deriving DecidableEq, Repr

inductive LedgerType where
  | commissionAccrue
  | commissionSettle
  | withdrawalFreeze
  | withdrawalCancelRelease
  | withdrawalApprove
  | withdrawalRejectRelease
  | withdrawalPaid
  | commissionAdjustIncrease
  | commissionAdjustDecrease
  deriving DecidableEq, Repr

/-- The unique `external_ref_id` of a ledger line.  The texts start with the
name of the operation and differ whenever these values do. -/
inductive ExternalRef where
  | accrue (sourceType : SourceType) (tradeNo : String)
  | settle (commissionId : Int)
  | withdrawalFreeze (idempotencyKey : String)
  | withdrawalCancelRelease (withdrawalId : Int)
  | withdrawalApprove (withdrawalId : Int)
  | withdrawalRejectRelease (withdrawalId : Int)
  | withdrawalPaid (withdrawalId : Int)
  | adjust (idempotencyKey : String)
  deriving DecidableEq, Repr

def ExternalRef.text : ExternalRef → String
  | .accrue sourceType tradeNo => "accrue:" ++ sourceType.text ++ ":" ++ tradeNo
  | .settle commissionId => "settle:" ++ toString commissionId
  | .withdrawalFreeze key => "withdrawal_freeze:" ++ key
  | .withdrawalCancelRelease id => "withdrawal_cancel_release:" ++ toString id
  | .withdrawalApprove id => "withdrawal_approve:" ++ toString id
  | .withdrawalRejectRelease id => "withdrawal_reject_release:" ++ toString id
  | .withdrawalPaid id => "withdrawal_paid:" ++ toString id
  | .adjust key => "adjust:" ++ key

structure ReferralCommissionLedger where
  externalRefId : ExternalRef
  affiliateId : Int
  userId : Int
  commissionId : Int := 0
  withdrawalId : Int := 0
  type : LedgerType
  refType : String
  refId : String
  deltaPending : Int := 0
  deltaAvailable : Int := 0
  deltaFrozen : Int := 0
  deltaWithdrawn : Int := 0
  remark : String := ""
  deriving DecidableEq, Repr

inductive WithdrawalStatus where
  | pending
  | approved
  | paid
  | rejected
  | canceled
  deriving DecidableEq, Repr

/-- What cancelling, reviewing and paying write into a withdrawal's row. -/
structure WithdrawalReview where
  adminNote : String := ""
  paymentProofURL : String := ""
  paymentTxnNo : String := ""
  rejectProofURL : String := ""
  approvedAt : Int := 0
  payoutDeadlineAt : Int := 0
  paidAt : Int := 0
  rejectedAt : Int := 0
  canceledAt : Int := 0
  reviewedBy : Int := 0
  rejectedBy : Int := 0
  canceledBy : Int := 0
  rejectReason : String := ""
  deriving DecidableEq, Repr

structure ReferralWithdrawal where
  id : Int
  affiliateId : Int
  userId : Int
  amount : Int
  feeAmount : Int
  netAmount : Int
  accountType : String
  accountName : String
  accountNo : String
  accountNetwork : String
  qrImageURL : String
  applicantNote : String
  status : WithdrawalStatus
  idempotencyKey : String
  submittedAt : Int
  review : WithdrawalReview := {}
  deriving DecidableEq, Repr

inductive ItemStatus where
  | frozen
  | released
  | withdrawn
  deriving DecidableEq, Repr

/-- The part of a withdrawal that one commission pays; commission 0 stands for
money without a commission behind it. -/
structure ReferralWithdrawalItem where
  id : Int
  withdrawalId : Int
  commissionId : Int
  allocatedAmount : Int
  status : ItemStatus
  deriving DecidableEq, Repr

inductive JobStatus where
  | pending
  | processing
  | skipped
  | succeeded
  | failed
  deriving DecidableEq, Repr

structure ReferralCommissionJob where
  sourceType : SourceType
  sourceTradeNo : String
  affiliateId : Int
  status : JobStatus
  attemptCount : Int := 0
  lastError : String := ""
  lockedAt : Int := 0
  succeededAt : Int := 0
  failedAt : Int := 0
  deriving DecidableEq, Repr

def ReferralCommissionJob.source (job : ReferralCommissionJob) :
    SourceType × String :=
  (job.sourceType, job.sourceTradeNo)

end NewApi.Referral
