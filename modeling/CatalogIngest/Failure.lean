import CatalogIngest.Json.Fields

/-!
# Failures

A failure never ends a run: the entity it concerns is left out and the failure is kept.
-/

namespace CatalogIngest

/-- What went wrong. -/
inductive FailureKind
  /-- Data of the wrong shape, or a reference to nothing. -/
  | shape
  /-- A name that nothing bears. -/
  | resolutionMiss
  /-- An error of the catalog. -/
  | externalCall
  deriving DecidableEq, Inhabited

/-- The stage of a run that met a failure. -/
inductive Stage
  | merge
  | dataModel
  | lineage
  | testSetup
  | testCase
  | testResult
  deriving DecidableEq, Inhabited

/-- An entity that was left out, and why. -/
structure Failure where
  stage : Stage
  kind : FailureKind
  subject : String
  message : String
  deriving DecidableEq, Inhabited

namespace FailureKind

/-- The code of a kind of failure. -/
def code : FailureKind → String
  | .shape => "SHAPE"
  | .resolutionMiss => "RESOLUTION_MISS"
  | .externalCall => "EXTERNAL_CALL"

/-- The JSON form of a kind is its code. -/
def encode (kind : FailureKind) : Json.Value :=
  .string kind.code

/-- Decode a kind from its code. -/
def decode : Json.Decoder FailureKind :=
  .choice ([.shape, .resolutionMiss, .externalCall].map fun kind => (kind.code, kind))

end FailureKind

namespace Stage

/-- The name of a stage. -/
def name : Stage → String
  | .merge => "merge"
  | .dataModel => "data_model"
  | .lineage => "lineage"
  | .testSetup => "test_setup"
  | .testCase => "test_case"
  | .testResult => "test_result"

/-- The JSON form of a stage is its name. -/
def encode (stage : Stage) : Json.Value :=
  .string stage.name

/-- Decode a stage from its name. -/
def decode : Json.Decoder Stage :=
  .choice
    ([.merge, .dataModel, .lineage, .testSetup, .testCase, .testResult].map fun stage =>
      (stage.name, stage))

end Stage

namespace Failure

/-- A failure for data of the wrong shape. -/
def shape (stage : Stage) (subject message : String) : Failure :=
  ⟨stage, .shape, subject, message⟩

/-- A failure for a name that nothing bears. -/
def miss (stage : Stage) (subject message : String) : Failure :=
  ⟨stage, .resolutionMiss, subject, message⟩

/-- A failure for an error of the catalog. -/
def external (stage : Stage) (subject message : String) : Failure :=
  ⟨stage, .externalCall, subject, message⟩

/-- The line that shows a failure. -/
def display (failure : Failure) : String :=
  "[" ++ failure.stage.name ++ "] " ++ failure.kind.code ++ " " ++ failure.subject ++ ": " ++
    failure.message

/-- The JSON form of a failure. -/
def encode (failure : Failure) : Json.Value :=
  .object
    [("stage", failure.stage.encode), ("kind", failure.kind.encode),
      ("subject", .string failure.subject), ("message", .string failure.message)]

/-- Decode a failure. -/
def decode : Json.Decoder Failure :=
  (Json.Fields.build Failure.mk
    |>.field (.required "stage" Stage.decode)
    |>.field (.required "kind" FailureKind.decode)
    |>.field (.required "subject" .string)
    |>.field (.required "message" .string)).decode "struct Failure"

end Failure
end CatalogIngest
