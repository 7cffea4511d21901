import AccessAudit.FileTree
import AccessAudit.Main
import AccessAudit.Proofs.FirstDefect
import AccessAudit.Proofs.Gaps
import AccessAudit.Proofs.Ordered
import AccessAudit.Proofs.Tokens
import AccessAudit.Proofs.Acceptance
import AccessAudit.Proofs.ExactVerdict
import AccessAudit.Proofs.Dependence
import AccessAudit.Proofs.ExitCode
import AccessAudit.Proofs.Edits
import AccessAudit.Proofs.EditedVerdict
import AccessAudit.Proofs.JsonText
import AccessAudit.Proofs.JsonRecord
import AccessAudit.Proofs.StandardOutput
import AccessAudit.Proofs.SnapshotFaults
import AccessAudit.Proofs.Substitution
import AccessAudit.Proofs.Preparation
import AccessAudit.Proofs.Escaping
import AccessAudit.Proofs.ComparedRules
import AccessAudit.Proofs.Isolation
import AccessAudit.Proofs.ByteOrder
import AccessAudit.Proofs.FailureMessages
import AccessAudit.Proofs.ReferencePositions
import AccessAudit.Proofs.ValuePlaces
import AccessAudit.Proofs.RecordPlaces
import AccessAudit.Proofs.RecordRoundTrip
import AccessAudit.Proofs.LostKeys
import AccessAudit.Proofs.PatternLanguage
import AccessAudit.Proofs.PatternInclusion
import AccessAudit.Proofs.ReferredVariables
import AccessAudit.Proofs.Inquiry
import AccessAudit.Proofs.MalformedTexts
import AccessAudit.Proofs.JoinedBatches
import AccessAudit.Proofs.GapPlaces
import AccessAudit.Proofs.ConfigFlaws
import AccessAudit.Proofs.ExplainedVerdict
import AccessAudit.Proofs.VisibleText
import AccessAudit.Proofs.TableWidths
import AccessAudit.Proofs.PaintedTables
import AccessAudit.Proofs.TableFields
