set_option autoImplicit false

/-!
The domains of entities whose records can be exported by their ids.
-/

namespace BackgroundWork.Export

/-- A domain of entities. -/
inductive Domain where
  | strategicGoals
  | projects
  | participants
  | activities
  deriving DecidableEq, Repr

namespace Domain

/-- All domains. -/
def all : List Domain := [strategicGoals, projects, participants, activities]

/-- The name shown to users. -/
def name : Domain → String
  | strategicGoals => "Strategic Goals"
  | projects => "Projects"
  | participants => "Participants"
  | activities => "Activities"

/-- The directory for exports below the documents directory. -/
def directoryName : Domain → String
  | strategicGoals => "StrategicGoals_Exports"
  | projects => "Projects_Exports"
  | participants => "Participants_Exports"
  | activities => "Activities_Exports"

/-- How the names of exported files start. -/
def fileStem : Domain → String
  | strategicGoals => "strategic_goals"
  | projects => "projects"
  | participants => "participants"
  | activities => "activities"

/-- The engine's entry point for exports of the domain. -/
def engineSymbol : Domain → String
  | strategicGoals => "export_strategic_goals_by_ids"
  | projects => "export_projects_by_ids"
  | participants => "export_participants_by_ids"
  | activities => "export_activities_by_ids"

end Domain
end BackgroundWork.Export
