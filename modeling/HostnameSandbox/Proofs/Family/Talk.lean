import HostnameSandbox.Proofs.Family.Bonds

/-!
# What the processes of a family exchange

The exchanges that a stage has made can be read off the happenings of its family, and they are
those of a run of the program as the stage was started.
-/

namespace HostnameSandbox

def Happening.exchangeBy? (pid : Pid) : Happening → Option Exchange
  | .made other exchange => if other = pid then some exchange else none
  | _ => none

/-- What a process has exchanged. -/
def talkBy (pid : Pid) (trace : List Happening) : List Exchange :=
  trace.filterMap (Happening.exchangeBy? pid)

section Talk

variable {pid : Pid} {trace : List Happening} {happening : Happening} {exchange : Exchange}

theorem mem_talkBy_iff : exchange ∈ talkBy pid trace ↔ .made pid exchange ∈ trace := by
  rw [talkBy, List.mem_filterMap]
  constructor
  · rintro ⟨happening, member, made⟩
    cases happening with
    | made other exchange =>
        simp only [Happening.exchangeBy?, Option.ite_none_right_eq_some] at made
        obtain ⟨rfl, same⟩ := made
        cases same
        exact member
    | _ => cases made
  · intro member
    exact ⟨_, member, if_pos rfl⟩

theorem talkBy_concat : talkBy pid (trace ++ [happening]) =
    talkBy pid trace ++ (happening.exchangeBy? pid).toList := by
  rw [talkBy, List.filterMap_append]
  cases made : happening.exchangeBy? pid <;> simp [talkBy, made]

theorem talkBy_made :
    talkBy pid (trace ++ [.made pid exchange]) = talkBy pid trace ++ [exchange] := by
  rw [talkBy_concat, Happening.exchangeBy?, if_pos rfl]
  rfl

theorem talkBy_idle (idle : ∀ exchange, happening ≠ .made pid exchange) :
    talkBy pid (trace ++ [happening]) = talkBy pid trace := by
  rw [talkBy_concat]
  cases happening with
  | made other exchange =>
      have ne : other ≠ pid := by
        rintro rfl
        exact idle exchange rfl
      rw [Happening.exchangeBy?, if_neg ne]
      exact List.append_nil _
  | _ => exact List.append_nil _

end Talk

namespace Family

variable {itself : Bytes → Bool} {root pid : Pid} {family : Family} {trace : List Happening}
  {first start : Start} {listener : Listener UInt8}

/-- A process that is not there yet has exchanged nothing. -/
theorem talkBy_of_absent (run : Run (Step itself) (.start root first) trace family)
    (absent : family pid = none) : talkBy pid trace = [] := by
  induction run with
  | start => rfl
  | @next trace happening between last run step hypothesis =>
      have absentBefore : between pid = none := by
        cases present : between pid with
        | none => rfl
        | some member =>
            obtain ⟨later, reached, -⟩ := step.evolves present
            cases absent.symm.trans reached
      rw [talkBy_idle, hypothesis absentBefore]
      rintro exchange rfl
      obtain ⟨member, _, _, _, present, -⟩ := step.made
      cases absentBefore.symm.trans present

/-- A stage has made its exchanges in a run of the program. -/
theorem talk_of_plays (run : Run (Step itself) (.start root first) trace family)
    (plays : family.Plays pid start listener) : talkBy pid trace = listener.talk ∧
      Run Process.Step (Sandbox.program start) listener.talk listener.process := by
  induction run generalizing listener with
  | start =>
      obtain ⟨member, present, role⟩ := plays
      obtain ⟨-, rfl⟩ := eq_of_start present
      cases role
      exact ⟨rfl, .start⟩
  | @next trace happening between last run step hypothesis =>
      rcases step.plays plays with ⟨rfl, absent⟩ | ⟨member, own, present, role, goes⟩
      · rw [talkBy_idle, talkBy_of_absent run absent]
        · exact ⟨rfl, .start⟩
        · rintro exchange rfl
          obtain ⟨member, _, _, _, present, -⟩ := step.made
          cases absent.symm.trans present
      · obtain ⟨same, made⟩ := hypothesis ⟨member, present, role⟩
        cases goes with
        | stay idle => exact ⟨(talkBy_idle idle).trans same, made⟩
        | come coming step =>
            cases step with
            | arrive listens =>
                refine ⟨?_, made⟩
                rw [talkBy_idle, same]
                · rfl
                · exact fun _ => nofun
        | make running goes answers =>
            cases goes with
            | make goes _ =>
                refine ⟨?_, .next made goes⟩
                rw [talkBy_made, same]
                rfl

end Family

end HostnameSandbox
