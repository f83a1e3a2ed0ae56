import LengthCalc.Main
import LengthCalc.Worksheet
import LengthCalc.Proofs.StableText
import LengthCalc.Proofs.PreservedTotals
import LengthCalc.Proofs.LexicalGrammar
import LengthCalc.Proofs.Characters
import LengthCalc.Proofs.ScannerSound
import LengthCalc.Proofs.LexemeShapes
import LengthCalc.Proofs.LexicalExact
import LengthCalc.Proofs.BracketScan
import LengthCalc.Proofs.ParserVerdict
import LengthCalc.Proofs.SessionLines
import LengthCalc.Proofs.SessionRun
import LengthCalc.Proofs.ExactTotals
import LengthCalc.Proofs.RunningTotals
import LengthCalc.Proofs.ConversionAccuracy
import LengthCalc.Proofs.NormalTrees
import LengthCalc.Proofs.ComposedText
import LengthCalc.Proofs.ScannerShift
import LengthCalc.Proofs.DecimalRange
import LengthCalc.Proofs.ScannerFaults
import LengthCalc.Proofs.LexicalFaults
import LengthCalc.Proofs.StableResults
import LengthCalc.Proofs.QuotedText
import LengthCalc.Proofs.JsonReading
import LengthCalc.Proofs.JsonRoundTrip
import LengthCalc.Proofs.PrintedTokens
import LengthCalc.Proofs.NearestMultiple
import LengthCalc.Proofs.ShownNumbers
import LengthCalc.Proofs.Thousands
import LengthCalc.Proofs.SignPlacement
import LengthCalc.Proofs.ValueArithmetic
import LengthCalc.Proofs.EqualValues
import LengthCalc.Proofs.OwnUnit
import LengthCalc.Proofs.ReturnConversion
import LengthCalc.Proofs.ParserCalls
import LengthCalc.Proofs.ParserReuse
import LengthCalc.Proofs.ParserOrder
import LengthCalc.Proofs.EvaluationReports
import LengthCalc.Proofs.SettingSources
import LengthCalc.Proofs.SettingLayers
import LengthCalc.Proofs.SettingNames
import LengthCalc.Proofs.LiteralMagnitude
import LengthCalc.Proofs.UnfinishedLexemes
