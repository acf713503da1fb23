import XmlPreamble.Detection.Transcript
import XmlPreamble.FileTree
import XmlPreamble.Interface.Session
import XmlPreamble.Scan.Region
import XmlPreamble.Proofs.Delivery
import XmlPreamble.Proofs.LineSearch
import XmlPreamble.Proofs.ReaderLines
import XmlPreamble.Proofs.PullDetection
import XmlPreamble.Proofs.PushDetection
import XmlPreamble.Proofs.CommentRegions
import XmlPreamble.Proofs.SeenOutsideComments
import XmlPreamble.Proofs.EncodingIndependence
import XmlPreamble.Proofs.FailingSources
import XmlPreamble.Proofs.ReadingOn
import XmlPreamble.Proofs.SessionIsolation
import XmlPreamble.Proofs.CommentChains
import XmlPreamble.Proofs.LineNumbers
import XmlPreamble.Proofs.ReadingNoFurther
import XmlPreamble.Proofs.FrontEnds
import XmlPreamble.Proofs.ExactDecoding
import XmlPreamble.Proofs.LinesInTurn
import XmlPreamble.Proofs.LineEndings
import XmlPreamble.Proofs.DetectorStates
import XmlPreamble.Proofs.CommentBlocks
import XmlPreamble.Proofs.FirstFaults
import XmlPreamble.Proofs.EscapedPaths
import XmlPreamble.Proofs.ForeignLocations
import XmlPreamble.Proofs.BufferBounds
import XmlPreamble.Proofs.FirstLineEnds
import XmlPreamble.Proofs.ScanningBytes
import XmlPreamble.BufferedReader
import XmlPreamble.Proofs.BufferedReading
