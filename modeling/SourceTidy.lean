import SourceTidy.Action.Scripted
import SourceTidy.Main
import SourceTidy.Proofs.Advisory
import SourceTidy.Proofs.ArgumentOrder
import SourceTidy.Proofs.BeyondFirstLines
import SourceTidy.Proofs.Commands
import SourceTidy.Proofs.DocumentSettings
import SourceTidy.Proofs.Endings
import SourceTidy.Proofs.FirstLines
import SourceTidy.Proofs.HeaderFindings
import SourceTidy.Proofs.LongerTargets
import SourceTidy.Proofs.Obstacles
import SourceTidy.Proofs.Quiet
import SourceTidy.Proofs.SecondRun
import SourceTidy.Proofs.Sessions
import SourceTidy.Proofs.SingleSpacing
import SourceTidy.Proofs.SingleTargets
import SourceTidy.Proofs.Spellings
import SourceTidy.Proofs.Stages
import SourceTidy.Proofs.Styles
import SourceTidy.Proofs.Tools
import SourceTidy.Proofs.Turns
import SourceTidy.Proofs.Visits
import SourceTidy.Proofs.WayUp
import SourceTidy.Proofs.Calls
import SourceTidy.Proofs.LineByLine
import SourceTidy.Proofs.ActionListing
import SourceTidy.Proofs.LastParts
