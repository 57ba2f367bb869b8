import Sponsorship.Command.Progress
import Sponsorship.Command.Save

/-!
# Running commands

Everything that changes campaigns. A command is one unit of work, which writes all or nothing.

* `Service.run`: runs a command against a store and a catalog.
-/

namespace Sponsorship

namespace Service

variable {σ υ : Type}

def run (s : Service σ υ) : Command → Task σ Outcome
  | .save r => .saved <$> s.save r
  | .delete id => do
    s.store.transact (s.store.call (.deleteCampaign id))
    return .deleted
  | .complete id => .completed <$> s.store.transact (s.store.complete id)
  | .invite id => .reported <$> s.store.transact (s.store.invite id)
  | .answerInvitation id blogger accepted answers =>
    .assignee <$> s.store.transact (s.store.answerInvitation id blogger accepted answers)
  | .decline id blogger reason => .assignee <$> s.store.transact (s.store.decline id blogger reason)
  | .applyLottery id results => .reported <$> s.store.transact (s.store.applyLottery id results)
  | .finishShipment id => .reported <$> s.store.transact (s.store.finishShipment id)
  | .completePayment id bloggers => do
    match firstRepeat? [] bloggers with
    | some blogger => Task.obey (.error (.bloggerListedTwice blogger))
    | none => .reported <$> s.store.transact (s.store.completePayment id bloggers)
  | .submit id blogger kind entry =>
    .examination <$> s.store.transact (s.store.submit s.now id blogger kind entry)
  | .applyVerdicts id kind verdicts =>
    .reported <$> s.store.transact (s.store.applyVerdicts id kind verdicts)

end Service

end Sponsorship
