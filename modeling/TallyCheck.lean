import TallyCheck.Grammar.Derivation
import TallyCheck.Grammar.First
import TallyCheck.Main
import TallyCheck.Proofs.Context
import TallyCheck.Proofs.FirstError
import TallyCheck.Proofs.FrontEnds
import TallyCheck.Proofs.Munching
import TallyCheck.Proofs.Observation
import TallyCheck.Proofs.TracePrefix
import TallyCheck.Proofs.Spelling
import TallyCheck.Proofs.Stream
import TallyCheck.Proofs.Cause
import TallyCheck.Proofs.LineNumbers
import TallyCheck.Proofs.TokenFeeds
import TallyCheck.Proofs.DiagnosticLines
import TallyCheck.Proofs.Inquiry
import TallyCheck.Proofs.CheckStreams
import TallyCheck.Proofs.Conclusion
import TallyCheck.Proofs.Printing
import TallyCheck.Proofs.Likeness
import TallyCheck.Proofs.CheckReports
import TallyCheck.Proofs.Growth
import TallyCheck.Proofs.Tiling
import TallyCheck.Proofs.LineByLine
import TallyCheck.Proofs.Requests
import TallyCheck.Proofs.Latch
import TallyCheck.Proofs.TraceReading
import TallyCheck.Proofs.ErrorChain
import TallyCheck.Proofs.Brackets
import TallyCheck.Proofs.FirstSymbols
import TallyCheck.Proofs.Escapes
import TallyCheck.Proofs.DumpReading
import TallyCheck.Proofs.FollowSymbols
import TallyCheck.Proofs.Description
