import CompileOnLoad.Controller
import CompileOnLoad.Proofs.Recording

/-!
# Orders

An order is given to a host, or to a controller in it, which may be an interceptor or a
facade.  Only switching on is done by a facade in its own way, and told with what it logs.
-/

namespace CompileOnLoad

variable {Key Memory : Type}

inductive Order (Key : Type) where
  | call (call : Call Key)
  | enable
  | disable
  | compile (path : Path)
  | isEligible (path : Path)
  | tally
  | editSuffixes (edit : List String -> List String)

namespace Order

def Answer : Order Key -> Type
  | call c => c.Answer
  | enable => Option SweepReport
  | disable => Bool
  | compile _ => Outcome
  | isEligible _ => Bool
  | tally => Tally
  | editSuffixes _ => Unit

def act (routines : Routines Key Memory) (depth : Nat) (controller : Controller) :
    (order : Order Key) -> Act Key Memory order.Answer
  | call c => Host.perform routines (depth + 1) c
  | enable => controller.enable routines (Host.perform routines depth)
  | disable => Act.ofPure controller.disable
  | compile path => controller.compile routines (Host.perform routines depth) (some path)
  | isEligible path => Act.ofPure fun host => (controller.isEligible host (some path), host)
  | tally => Act.ofPure fun host => (controller.tally host, host)
  | editSuffixes edit =>
      Act.ofPure fun host => ((), { host with suffixes := edit host.suffixes })

end Order

/-!
# Accounts of orders
-/

namespace Facade

def warningText (pattern : Pattern) : String :=
  "Exclusion pattern " ++ pattern.display ++ " is invalid and will never match"

def summaryText (report : SweepReport) : String :=
  "Compiled " ++ toString report.tally.compiled ++ " of " ++ toString report.visited ++
    " previously loaded files"

def warnings (facade : Facade) (host : Host Key Memory) : List (Change Key Memory) :=
  if facade.isActive host then []
  else
    (host.policy facade.settings.policy).invalidPatterns.map fun pattern =>
      .log facade.settings.logger .warn target (warningText pattern)

def summary (facade : Facade) (report? : Option SweepReport) : List (Change Key Memory) :=
  report?.toList.map fun report =>
    .log facade.settings.logger .info target (summaryText report)

/-- Switching on is told with what the facade logs before and afterwards. -/
def enableAccount (routines : Routines Key Memory)
    (accounts : (call : Call Key) -> Account Key Memory call.Answer) (facade : Facade) :
    Account Key Memory (Option SweepReport) := Account.look fun host =>
  (Account.tell (facade.warnings host)).andThen fun _ =>
    (Account.enable routines accounts facade.interceptor).andThen fun report? =>
      (Account.tell (facade.summary report?)).andThen fun _ => Account.returned report?

theorem reportInvalid_eq_foldl (facade : Facade) {host : Host Key Memory}
    (h : facade.isActive host = false) :
    facade.reportInvalid host =
      (facade.warnings host).foldl (fun host change => change.apply host) host := by
  unfold reportInvalid warnings
  rw [h, if_neg Bool.false_ne_true, List.foldl_map]
  rfl

theorem tells_enableAccount (routines : Routines Key Memory)
    {accounts : (call : Call Key) -> Account Key Memory call.Answer}
    {acts : Performer Key Memory} (hcalls : forall call, (accounts call).Tells (acts call))
    (facade : Facade) :
    (enableAccount routines accounts facade).Tells (enable routines acts facade) := by
  intro scope host
  have henabled := Account.tells_andThen
    (Account.tells_enable routines hcalls facade.interceptor) fun report? =>
      (Account.tells_returned report?).after (facade.summary report?)
  have hwarned := henabled.after (facade.warnings host) scope host
  refine Eq.trans ?_ hwarned
  unfold enable
  have hstart : (if facade.isActive host then host else facade.reportInvalid host) =
      (facade.warnings host).foldl (fun host change => change.apply host) host := by
    cases hactive : facade.isActive host with
    | true =>
        unfold warnings
        rw [hactive]
        rfl
    | false => exact facade.reportInvalid_eq_foldl hactive
  simp only [hstart]
  congr 1
  funext report?
  cases report? with
  | none => rfl
  | some report => rfl

end Facade

namespace Order

def account (routines : Routines Key Memory) (depth : Nat) (controller : Controller) :
    (order : Order Key) -> Account Key Memory order.Answer
  | call c => Account.perform routines (depth + 1) c
  | enable =>
      match controller with
      | .direct index => Account.enable routines (Account.perform routines depth) index
      | .facade f => f.enableAccount routines (Account.perform routines depth)
  | disable => Account.disable controller.interceptor
  | compile path => Account.look fun host =>
      Account.compile routines (Account.perform routines depth) (controller.engine host)
        (some path)
  | isEligible path => Account.look fun host =>
      Account.returned (controller.isEligible host (some path))
  | tally => Account.look fun host => Account.returned (controller.tally host)
  | editSuffixes edit => Account.tell [.editSuffixes edit]

variable (routines : Routines Key Memory) (depth : Nat)

theorem tells_account (controller : Controller) (order : Order Key) :
    (order.account routines depth controller).Tells
      (order.act routines depth controller) := by
  have hcalls := Account.tells_perform routines depth
  cases order with
  | call c => exact Account.tells_perform routines (depth + 1) c
  | enable =>
      cases controller with
      | direct index => exact Account.tells_enable routines hcalls index
      | facade f => exact Facade.tells_enableAccount routines hcalls f
  | disable =>
      cases controller with
      | direct index => exact Account.tells_disable index
      | facade f => exact Account.tells_disable f.interceptor
  | compile path =>
      intro scope host
      cases controller with
      | direct index => exact Account.tells_compile routines hcalls _ _ scope host
      | facade f => exact Account.tells_compile routines hcalls _ _ scope host
  | isEligible path => intro scope host; rfl
  | tally => intro scope host; rfl
  | editSuffixes edit => intro scope host; rfl

theorem isOfCore_account (index : Nat) (order : Order Key) :
    (order.account routines depth (.direct index)).IsOfCore := by
  have hcalls := Account.isOfCore_perform routines depth
  cases order with
  | call c => exact Account.isOfCore_perform routines (depth + 1) c
  | enable => exact Account.isOfCore_enable routines hcalls index
  | disable => exact Account.isOfCore_disable index
  | compile path =>
      unfold account
      apply Account.isOfCore_look _ fun _ => rfl
      intro host
      exact Account.isOfCore_compile routines hcalls _ _
  | isEligible path =>
      unfold account
      apply Account.isOfCore_look _ fun _ => rfl
      intro host
      exact Account.isOfCore_returned _
  | tally =>
      unfold account
      apply Account.isOfCore_look _ fun _ => rfl
      intro host
      exact Account.isOfCore_returned _
  | editSuffixes edit =>
      apply Account.isOfCore_tell
      simp [Change.IsOfCore]

theorem account_facade {order : Order Key} (h : order ≠ .enable) (facade : Facade) :
    order.account routines depth (.facade facade) =
      order.account routines depth (.direct facade.interceptor) := by
  cases order with
  | enable => exact absurd rfl h
  | _ => rfl

end Order

/-!
# Runs
-/

/-- One order of a run, and the records that were delivered meanwhile. -/
structure Turn (Key Memory : Type) where
  order : Order Key
  before : Host Key Memory
  ending : Ending order.Answer
  after : Host Key Memory
  delivered : List Log.Delivery

def Order.turn (routines : Routines Key Memory) (depth : Nat) (controller : Controller)
    (order : Order Key) (host : Host Key Memory) : Turn Key Memory :=
  ⟨order, host, (order.act routines depth controller host).1,
    (order.act routines depth controller host).2,
    host.delivered (order.account routines depth controller {} host).2⟩

theorem Order.turn_eq {routines : Routines Key Memory} {depth : Nat} (controller : Controller)
    (order : Order Key) {host : Host Key Memory} {ending : Ending order.Answer}
    {entries : List (Entry Key Memory)}
    (h : order.account routines depth controller {} host = (ending, entries)) :
    order.turn routines depth controller host =
      ⟨order, host, ending, host.replay entries, host.delivered entries⟩ := by
  unfold turn
  rw [tells_account routines depth controller order {} host, h]

def Controller.turns (routines : Routines Key Memory) (depth : Nat)
    (controller : Controller) : List (Order Key) -> Host Key Memory -> List (Turn Key Memory)
  | [], _ => []
  | order :: rest, host =>
      order.turn routines depth controller host ::
        controller.turns routines depth rest (order.turn routines depth controller host).after

end CompileOnLoad
