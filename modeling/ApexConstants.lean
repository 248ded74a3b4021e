import ApexConstants.Text
import ApexConstants.Number
import ApexConstants.Json
import ApexConstants.Files
import ApexConstants.Log
import ApexConstants.Apex.Names
import ApexConstants.Apex.Source
import ApexConstants.Generated
import ApexConstants.ValueSets
import ApexConstants.RecordTypes
import ApexConstants.Xml.Encoding
import ApexConstants.Xml.Markup
import ApexConstants.Xml.Doctype
import ApexConstants.Xml.Reader
import ApexConstants.Metadata
import ApexConstants.Options.Load
import ApexConstants.Project
import ApexConstants.Generation
import ApexConstants.CommandLine.Run
import ApexConstants.Main
import ApexConstants.Proofs.UsableNames
import ApexConstants.Proofs.LoadedOptions
import ApexConstants.Proofs.OverridePrecedence
import ApexConstants.Proofs.StringLiterals
import ApexConstants.Proofs.DeclaredConstants
import ApexConstants.Proofs.ValueSetGenerations
import ApexConstants.Proofs.ReadableClasses
import ApexConstants.Proofs.TreeGrowth
import ApexConstants.Proofs.WrittenFiles
import ApexConstants.Proofs.ClassClashes
import ApexConstants.Proofs.KeptConstants
import ApexConstants.Proofs.RecordTypeRuns
import ApexConstants.Proofs.AccessorNames
import ApexConstants.Proofs.IndependentKinds
import ApexConstants.Proofs.ReadableRecordTypes
import ApexConstants.Proofs.RootedNames
import ApexConstants.Proofs.DeclaredEncodings
import ApexConstants.Proofs.ReportedFaults
import ApexConstants.Proofs.StableGenerations
import ApexConstants.Proofs.UnwrittenFailures
import ApexConstants.Proofs.IncludedRecords
import ApexConstants.Proofs.KeptLayouts
import ApexConstants.Proofs.LiteralLines
import ApexConstants.Proofs.RecordTypeNames
import ApexConstants.Proofs.NormalizedNames
import ApexConstants.Proofs.ClassNameShapes
import ApexConstants.Proofs.DocComments
import ApexConstants.Proofs.FoundFiles
import ApexConstants.Proofs.LoadedRecords
import ApexConstants.Proofs.SetFileNames
import ApexConstants.Proofs.DeveloperTokens
import ApexConstants.Proofs.WriteAccounts
import ApexConstants.Proofs.ReadOnce
import ApexConstants.Proofs.ResolvedOptions
import ApexConstants.Proofs.ReadValues
import ApexConstants.Proofs.AcceptedOptions
import ApexConstants.Proofs.SanitizedNames
import ApexConstants.Proofs.NameCollisions
import ApexConstants.Proofs.BlankRuns
import ApexConstants.Proofs.ObjectFolders
import ApexConstants.Proofs.EscapedText
import ApexConstants.Proofs.KeySpellings
