import DocAudit.Comment.Printer
import DocAudit.Extraction.Schedule
import DocAudit.Main
import DocAudit.Record.Encode
import DocAudit.Report.Reader
import DocAudit.Proofs.Comment.Readable
import DocAudit.Proofs.Comment.Segmentation
import DocAudit.Proofs.Comment.OnePass
import DocAudit.Proofs.Comment.Conservation
import DocAudit.Proofs.Comment.RoundTrip
import DocAudit.Proofs.Command.AllOrNothing
import DocAudit.Proofs.Report.Agreement
import DocAudit.Proofs.Report.Outline
import DocAudit.Proofs.Command.Strict
import DocAudit.Proofs.Record.RoundTrip
import DocAudit.Proofs.Extraction.Schedule
import DocAudit.Proofs.Comment.Shape
import DocAudit.Proofs.Comment.EarlyClose
import DocAudit.Proofs.Comment.Indentation
import DocAudit.Proofs.Comment.Summary
import DocAudit.Proofs.Comment.Refusal
import DocAudit.Proofs.Comment.Layout
import DocAudit.Proofs.Command.Rerun
import DocAudit.Proofs.Record.Complaints
import DocAudit.Proofs.Report.Table
import DocAudit.Proofs.Finding.MoreTags
import DocAudit.Proofs.Report.Breakdown
import DocAudit.Proofs.Report.Notice
import DocAudit.Proofs.Finding.AnyRule
import DocAudit.Proofs.Report.Parameter
import DocAudit.Proofs.Finding.Restatement
import DocAudit.Proofs.Record.Respelling
import DocAudit.Proofs.Settings.Precedence
import DocAudit.Proofs.Settings.FileTitle
