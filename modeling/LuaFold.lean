import LuaFold.Main
import LuaFold.Node.Json
import LuaFold.Proofs.AbandonedHeader
import LuaFold.Proofs.BodyDepth
import LuaFold.Proofs.ByteReader
import LuaFold.Proofs.Checkpoints
import LuaFold.Proofs.DelimiterCounts
import LuaFold.Proofs.DialectAgreement
import LuaFold.Proofs.FoldEffect
import LuaFold.Proofs.LeadingComments
import LuaFold.Proofs.LongBrackets
import LuaFold.Proofs.MoreTokens
import LuaFold.Proofs.NestedBranches
import LuaFold.Proofs.NodeEdges
import LuaFold.Proofs.NumberTokens
import LuaFold.Proofs.Probing
import LuaFold.Proofs.ProgramOutline
import LuaFold.Proofs.ReportLines
import LuaFold.Proofs.SearchLoops
import LuaFold.Proofs.Speculation
import LuaFold.Proofs.Spelling
import LuaFold.Proofs.TokenCover
