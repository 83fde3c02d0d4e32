import FastqFixtures.Barcode.Basic
import FastqFixtures.Barcode.Count
import FastqFixtures.Barcode.Expand
import FastqFixtures.Barcode.Neighbors
import FastqFixtures.Bytes
import FastqFixtures.Cli.Commands
import FastqFixtures.Cli.Complete
import FastqFixtures.Cli.Flags
import FastqFixtures.Cli.LogText
import FastqFixtures.Cli.Paths
import FastqFixtures.Cli.Usage
import FastqFixtures.Fastq.Batching
import FastqFixtures.Fastq.Name
import FastqFixtures.Fastq.Record
import FastqFixtures.Fastq.Synthesis
import FastqFixtures.Fault
import FastqFixtures.Gzip.Crc32
import FastqFixtures.Gzip.Inflate
import FastqFixtures.Gzip.Member
import FastqFixtures.Json.Reader
import FastqFixtures.Json.Value
import FastqFixtures.Main
import FastqFixtures.Pool
import FastqFixtures.Proofs.AmbiguityDistance
import FastqFixtures.Proofs.BarcodeLength
import FastqFixtures.Proofs.BarcodeValidation
import FastqFixtures.Proofs.BatchedWriter
import FastqFixtures.Proofs.CollisionCheck
import FastqFixtures.Proofs.Concatenation
import FastqFixtures.Proofs.ConflictReport
import FastqFixtures.Proofs.CountExact
import FastqFixtures.Proofs.CountLoop
import FastqFixtures.Proofs.DirectoryChanges
import FastqFixtures.Proofs.DrawOrder
import FastqFixtures.Proofs.Expansion
import FastqFixtures.Proofs.GzipRoundTrip
import FastqFixtures.Proofs.MismatchBall
import FastqFixtures.Proofs.NeighborCount
import FastqFixtures.Proofs.NeighborsInPlace
import FastqFixtures.Proofs.PathFrame
import FastqFixtures.Proofs.PooledFiles
import FastqFixtures.Proofs.PooledRun
import FastqFixtures.Proofs.ReadNames
import FastqFixtures.Proofs.RecordCount
import FastqFixtures.Proofs.RefusedRuns
import FastqFixtures.Proofs.SheetAcceptance
import FastqFixtures.Proofs.SheetRows
import FastqFixtures.Proofs.SynthesisSafety
import FastqFixtures.Proofs.SynthesizedFiles
import FastqFixtures.Random.Additive
import FastqFixtures.Random.Cooked
import FastqFixtures.Random.Source
import FastqFixtures.Run.Config
import FastqFixtures.Run.Log
import FastqFixtures.Run.Pooled
import FastqFixtures.SampleSheet
import FastqFixtures.Text.Blank
import FastqFixtures.Text.Decimal
import FastqFixtures.Text.Lines
import FastqFixtures.Text.Printable
import FastqFixtures.Text.Quoted
import FastqFixtures.Text.UpperCase
import FastqFixtures.Text.Utf8
import FastqFixtures.Workspace
