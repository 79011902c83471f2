import Bytemark.Codec
import Bytemark.Codec.Length
import Bytemark.Codec.Piece
import Bytemark.Codec.Utf16
import Bytemark.Codec.Utf32
import Bytemark.Codec.Utf8
import Bytemark.CommandLine
import Bytemark.CommandLine.Arguments
import Bytemark.CommandLine.Switch
import Bytemark.Config
import Bytemark.Config.Files
import Bytemark.Config.LogFilter
import Bytemark.Config.Setting
import Bytemark.Encoding
import Bytemark.Encoding.Label
import Bytemark.Files.Content
import Bytemark.Files.FileSystem
import Bytemark.Files.Location
import Bytemark.Files.Path
import Bytemark.Files.ReadCursor
import Bytemark.Files.WriteCursor
import Bytemark.Json
import Bytemark.Lines
import Bytemark.Log
import Bytemark.Main
import Bytemark.Proofs.AcceptedWrites
import Bytemark.Proofs.AccumulatedLines
import Bytemark.Proofs.AppendedText
import Bytemark.Proofs.Appending
import Bytemark.Proofs.CarriedOctets
import Bytemark.Proofs.CharacterReading
import Bytemark.Proofs.CommandRuns
import Bytemark.Proofs.Contributions
import Bytemark.Proofs.DiscreetActions
import Bytemark.Proofs.FailedReads
import Bytemark.Proofs.FileReading
import Bytemark.Proofs.FileTree
import Bytemark.Proofs.FileWriting
import Bytemark.Proofs.FourOctetUnits
import Bytemark.Proofs.InterleavedCalls
import Bytemark.Proofs.InverseCodec
import Bytemark.Proofs.JoinedLines
import Bytemark.Proofs.LineAnswers
import Bytemark.Proofs.LineCutting
import Bytemark.Proofs.LineReading
import Bytemark.Proofs.LogLevels
import Bytemark.Proofs.LoggedRuns
import Bytemark.Proofs.OctetLines
import Bytemark.Proofs.OverlongUse
import Bytemark.Proofs.PagedLines
import Bytemark.Proofs.PortionedDecoding
import Bytemark.Proofs.ProbedStreams
import Bytemark.Proofs.Probing
import Bytemark.Proofs.PutBackStreams
import Bytemark.Proofs.RawText
import Bytemark.Proofs.RefusedOverwrites
import Bytemark.Proofs.RemainingText
import Bytemark.Proofs.ResavedText
import Bytemark.Proofs.RoundTrip
import Bytemark.Proofs.ScanAnswers
import Bytemark.Proofs.SentMessages
import Bytemark.Proofs.SessionRun
import Bytemark.Proofs.SessionStates
import Bytemark.Proofs.SessionWriting
import Bytemark.Proofs.SettledEncoding
import Bytemark.Proofs.SignedText
import Bytemark.Proofs.SpelledLabels
import Bytemark.Proofs.StreamScript
import Bytemark.Proofs.StreamedLines
import Bytemark.Proofs.TailedLines
import Bytemark.Proofs.TextUsage
import Bytemark.Proofs.TrimmedText
import Bytemark.Proofs.WritingCalls
import Bytemark.Proofs.WrittenConfig
import Bytemark.Proofs.WrittenLines
import Bytemark.Proofs.WrittenStrings
import Bytemark.Resolver
import Bytemark.Scan.Filter
import Bytemark.Scan.Page
import Bytemark.Scan.Scanner
import Bytemark.Session
import Bytemark.Session.Action
import Bytemark.Signature
import Bytemark.Stream.Buffered
import Bytemark.Stream.IoError
import Bytemark.Stream.LineReader
import Bytemark.Stream.Pushback
import Bytemark.Stream.Source
import Bytemark.Stream.TextStream
import Bytemark.Stream.Window
import Bytemark.Text.Blank
import Bytemark.Text.Escape
import Bytemark.Text.Lowercase
import Bytemark.Text.Number
import Bytemark.Text.Unseen
import Bytemark.TextError
import Bytemark.TextSettings
import Bytemark.Toml.Document
import Bytemark.Toml.Scalar
import Bytemark.Toml.Text
import Bytemark.Toml.Value
