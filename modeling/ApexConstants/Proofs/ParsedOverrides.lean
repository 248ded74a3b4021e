import ApexConstants.CommandLine.Parse
import ApexConstants.Options.Load
import ApexConstants.Proofs.Outcomes
import ApexConstants.Proofs.ReadValues

namespace ApexConstants.CommandLine

/-- Values as words can leave them. -/
def Worded (values : Json.Members) : Prop :=
  ∀ m ∈ values, m.1.isForeign = false ∧ Json.Formed Json.depthLimit m.2

variable {c : Command} {s after : Setting} {values : Json.Members}

theorem Worded.insert (h : Worded values) (key : String) {value : Json}
    (hvalue : Json.Formed Json.depthLimit value) : Worded (Json.insert key value values) := by
  intro m hm
  rcases Json.mem_insert hm with rfl | hold
  · exact ⟨rfl, hvalue⟩
  · exact h m hold

end ApexConstants.CommandLine
