import EntityDto.Http.CrossOrigin
import EntityDto.Main
import EntityDto.Proofs.Text.LineEndings
import EntityDto.Proofs.Text.Scan
import EntityDto.Session
import EntityDto.Proofs.Entity.ClassSearch
import EntityDto.Proofs.Entity.Attachment
import EntityDto.Proofs.Token.Declaration
import EntityDto.Proofs.Entity.SearchText
import EntityDto.Proofs.Token.Lines
import EntityDto.Proofs.Conversion.LineEndings
import EntityDto.Proofs.Entity.Printing
import EntityDto.Proofs.Field.TypeText
import EntityDto.Proofs.Conversion.ImportLines
import EntityDto.Proofs.Conversion.Reparse
import EntityDto.Proofs.Text.Gaps
import EntityDto.Proofs.Field.Attributes
import EntityDto.Proofs.Entity.InStep
import EntityDto.Proofs.Entity.Layout
import EntityDto.Proofs.Token.Extent
import EntityDto.Proofs.Entity.Adjacency
import EntityDto.Proofs.Entity.FrontLines
import EntityDto.Proofs.Entity.Exchange
import EntityDto.Proofs.Entity.Comments
import EntityDto.Proofs.Conversion.Session
import EntityDto.Proofs.Conversion.Body
import EntityDto.Proofs.File.Directories
import EntityDto.Proofs.File.Names
import EntityDto.Proofs.Generation.Agreement
import EntityDto.Proofs.Text.Utf8
import EntityDto.Proofs.Generation.Effects
import EntityDto.Proofs.Entity.Preamble
import EntityDto.Proofs.Conversion.Mirror
import EntityDto.Proofs.Conversion.Presence
import EntityDto.Proofs.Http.Conversion
import EntityDto.Proofs.Command.Run
import EntityDto.Proofs.Http.CrossOrigin
import EntityDto.Proofs.Text.Words
import EntityDto.Proofs.Conversion.EnumChecks
import EntityDto.Proofs.Conversion.CarriedLines
import EntityDto.Proofs.Token.Runs
import EntityDto.Proofs.Token.Spelling
import EntityDto.Proofs.Entity.Replacement
import EntityDto.Proofs.Token.Capture
import EntityDto.Proofs.Conversion.ClassDetection
import EntityDto.Proofs.Entity.Optionality
import EntityDto.Proofs.Entity.AttributeOrder
import EntityDto.Proofs.Field.ListType
import EntityDto.Proofs.Field.AngleBrackets
import EntityDto.Proofs.Field.EnumNames
import EntityDto.Proofs.Conversion.EnumRecognition
import EntityDto.Proofs.File.Hyphenation
import EntityDto.Proofs.Conversion.Assignments
import EntityDto.Proofs.Conversion.StageLog
import EntityDto.Proofs.Conversion.Shape
