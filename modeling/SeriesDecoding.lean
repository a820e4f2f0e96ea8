import SeriesDecoding.Binary64.Round
import SeriesDecoding.Body.Basic
import SeriesDecoding.Body.Encoding
import SeriesDecoding.Decimal.Layout
import SeriesDecoding.Decimal.Shortest
import SeriesDecoding.Document.Basic
import SeriesDecoding.Document.Literal
import SeriesDecoding.Document.Reader
import SeriesDecoding.Document.Writer
import SeriesDecoding.Fault
import SeriesDecoding.Handoff
import SeriesDecoding.Labels.Access
import SeriesDecoding.Labels.Render
import SeriesDecoding.Log
import SeriesDecoding.Number
import SeriesDecoding.Numeral
import SeriesDecoding.Proofs.CheckOrder
import SeriesDecoding.Proofs.FloatModel
import SeriesDecoding.Proofs.LabelReading
import SeriesDecoding.Proofs.LabelText
import SeriesDecoding.Proofs.Levels
import SeriesDecoding.Proofs.Outcomes
import SeriesDecoding.Proofs.ResultShape
import SeriesDecoding.Proofs.RoundRatio
import SeriesDecoding.Proofs.SinkRecords
import SeriesDecoding.Proofs.Snap
import SeriesDecoding.Proofs.ThrottleHistory
import SeriesDecoding.Proofs.WarningTrace
import SeriesDecoding.Request
import SeriesDecoding.Response
import SeriesDecoding.Sample
import SeriesDecoding.Series.Basic
import SeriesDecoding.Series.Decode
import SeriesDecoding.Session
import SeriesDecoding.Sink.Basic
import SeriesDecoding.Sink.Bound
import SeriesDecoding.Sink.Ring
import SeriesDecoding.Sink.Throttle
import SeriesDecoding.Text.Basic
import SeriesDecoding.Text.Blank
import SeriesDecoding.Text.DecimalDigit
import SeriesDecoding.Text.Printable
import SeriesDecoding.Text.Quoted
import SeriesDecoding.Proofs.HandoffHistory
