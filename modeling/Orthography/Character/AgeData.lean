import Orthography.Character.Run

/-!
# Ages

The version of the character database that each assigned character came with.
-/

namespace Orthography.Character

/-- The loose names of the versions of the character database in their order, each with its tag. -/
def ageNames : List (List String × String) := [
  (["1.1", "v11"], "A"), (["2.0", "v20"], "B"), (["2.1", "v21"], "C"), (["3.0", "v30"], "D"),
  (["3.1", "v31"], "E"), (["3.2", "v32"], "F"), (["4.0", "v40"], "G"), (["4.1", "v41"], "H"),
  (["5.0", "v50"], "I"), (["5.1", "v51"], "J"), (["5.2", "v52"], "K"), (["6.0", "v60"], "L"),
  (["6.1", "v61"], "M"), (["6.2", "v62"], "N"), (["6.3", "v63"], "O"), (["7.0", "v70"], "P"),
  (["8.0", "v80"], "Q"), (["9.0", "v90"], "R"), (["10.0", "v100"], "S"), (["11.0", "v110"], "T"),
  (["12.0", "v120"], "U"), (["12.1", "v121"], "V"), (["13.0", "v130"], "W"),
  (["14.0", "v140"], "X"), (["15.0", "v150"], "Y"), (["15.1", "v151"], "Z"),
  (["16.0", "v160"], "a"), (["17.0", "v170"], "b")]

/-- The stretches of characters of one version.  Code points without a character are counted with
what is before them. -/
def ageStretches : List (Nat × String) := readTagged [
  "502A 4D 30A 8D 1F 1G 18D 3G 11H 14I 89A 5D 2G 47A 1D 10A 5D 17G 70A 9D 1F 8G 5H 3G 2A 1D 13F 4J",
  "2A 4J 1A 3I 1A 5P 75A 1J 7A 1D 2F 1A 1D 1A 1D 1A 1D 1A 1D 18A 2E 1F 5G 4H 1D 12A 1D 66A 1D 12A",
  "1D 41A 1J 2D 2F 4D 53A 2F 2A 2F 2A 2F 1I 28A 2D 8A 2H 2A 6I 16F 4I 16J 2K 2L 9P 47A 1T 39A 1T",
  "1A 3D 2P 2M 17B 1H 13B 10A 1I 9A 1B 11H 31A 1T 16A 4G 1M 1P 5J 1H 1A 9G 5J 1A 1O 1X 1H 1A 1L",
  "26A 5J 19A 3D 3G 6H 1L 14A 2F 72A 2D 5A 1D 15A 1D 30A 2G 10A 5D 1G 45D 3G 29D 3G 30H 18J 49D",
  "15F 61I 3T 64K 32L 16S 31X 1b 7X 1a 8X 1M 1P 11M 6P 2Q 1X 8R 10W 11X 1T 15R 1Q 27M 1P 1K 3A 1G",
  "53A 2L 18A 1K 1L 5A 1K 2L 25A 2J 5L 1P 2K 2I 1H 2I 1P 60A 1G 16A 9H 36A 1K 2S 3T 1G 1A 2G 76A",
  "8J 28A 1J 11T 11A 1G 84A 5G 10A 1M 8G 1Q 7S 52A 1G 14A 3J 14A 1W 12A 4J 11A 1G 16L 52A 1H 25A",
  "7J 15A 1H 12A 13G 1P 3A 1T 47A 1P 7A 1X 1J 26A 2J 2Q 1b 3X 2A 4J 17A 1U 8J 1R 1P 2A 1T 55A 2G",
  "30A 1b 1X 4A 4I 11A 2I 13Y 1S 1P 2A 1W 36A 1L 16A 1L 2S 1J 6A 2J 8A 1L 8R 1A 7R 1Q 2A 4J 10A 6J",
  "3R 8J 1W 100D 12P 15D 133A 1U 2A 1U 2A 1U 1A 6U 4A 1U 7A 1U 7A 2U 2A 1U 13A 1U 19A 2Y 14A 34M",
  "106B 1D 6J 27B 4L 6B 1D 23B 3D 7B 1D 1B 20D 1J 1D 2H 3J 4K 39L 34D 1J 5D 1J 2D 1J 7D 3J 4D 6J",
  "26D 64J 4K 2J 39A 9M 39A 2F 2H 1A 1H 3M 90A 5K 68A 5K 82A 6K 7D 1H 63D 1H 63D 1H 39D 1H 31D 1H",
  "31D 1H 31D 1H 15D 1H 39D 1H 21D 2L 2H 31D 32H 85D 11Q 1K 630D 9K 113D 15P 13F 1X 7F 11X 96F 93D",
  "3G 16D 16G 15D 1X 104D 8T 42D 6J 80K 29G 3P 96G 42H 6K 42H 4K 2H 32G 32H 144K 15P 2W 14X 49b",
  "76I 2X 2a 45I 2X 1a 43J 3M 12J 6M 64L 128J 9R 7a 48T 16M 35K 4M 1S 2P 6U 108G 88H 7I 28J 15P 4S",
  "1X 1R 1L 1K 2I 155A 1B 4J 90A 6J 303A 1D 23A 1F 6D 5F 2G 2H 1F 7H 5F 2J 4O 7A 3F 28A 5H 11L 11A",
  "1B 1C 3D 2F 4H 3K 1L 1N 3P 1Q 1S 1X 15b 18A 2D 7F 1H 4I 16J 57A 2D 1G 1H 15F 1H 2I 1J 3K 48A 1D",
  "1I 4J 1K 6Q 91A 9D 12F 242A 14F 1A 1D 121A 1D 1F 30D 52F 2G 11H 12I 1K 11L 7P 4R 1S 37A 2D 25a",
  "171A 20F 1G 150A 10F 80A 8D 8F 20A 2G 2F 1H 1D 86A 2D 12F 2H 10F 8G 11H 1J 2K 2G 16H 1I 10J 3K",
  "4J 10K 1L 19K 1L 1K 4L 24K 1P 4A 1L 4A 2L 28A 1L 35A 1L 1A 1L 4A 3L 1A 1K 7A 2L 7A 14F 31A 3L",
  "24A 1L 14A 1L 7H 4I 1M 1J 1M 2L 28F 4J 16F 256D 512F 14G 6H 7I 5J 4I 41J 3P 5J 5K 60P 1b 1W 34P",
  "3T 12P 1U 8P 1S 25T 4Q 15T 1U 47H 1X 47H 1X 13I 3J 1K 3J 4I 6J 2K 107H 7K 7M 46H 9M 54H 9M 1H",
  "16L 96H 32J 24H 4J 2H 19J 1K 10M 7P 2R 5S 5T 1U 3W 45X 380D 4Z 56A 3D 3F 1D 86A 4F 6A 2F 94A 6F",
  "40A 1J 1S 2T 111A 24D 3L 5W 16H 20J 11a 1Z 16F 29A 3G 36A 12K 1G 15F 28A 2G 1H 50A 15F 12A 4G",
  "47A 1V 119A 4G 99A 2G 31A 1G 6582D 10W 64G 20902A 22H 8J 8K 1M 9Q 21S 5T 13W 3X 1186D 2F 16D 1F",
  "12D 1F 3D 1F 10D 48K 352J 2L 18J 8M 28J 6P 1Q 1M 96K 23H 4I 5J 2I 107J 2L 1Q 2L 2M 12P 10L 1M",
  "3P 1R 1T 2P 6Q 2T 6U 2X 5U 4W 3a 2b 2X 1b 1X 1b 5X 23a 1b 3X 2W 1P 2M 1L 5J 44H 4W 16K 64I 69J",
  "9R 18J 28K 2Q 2T 96J 128K 32P 96J 28K 4P 96K 33M 47L 48P 4Q 2P 2U 8W 80Q 64K 11184B 80K 2048B",
  "6702A 2M 59F 5K 144H 29A 1D 148A 16L 1X 16b 365A 16X 64A 2b 54A 7b 1X 32E 12A 1F 1G 2X 16F 16H",
  "4A 3J 7P 2Q 21A 2F 2G 42A 1F 235A 2F 152A 3D 1C 3A 320G 75H 2P 3R 12J 4W 48P 272J 32P 31E 1P",
  "13E 3S 32E 48P 32G 96H 38E 2G 38E 98G 80R 112P 80X 64a 384P 128X 64G 32K 128P 32Q 26I 5K 1I 32J",
  "64b 60M 2Q 2M 64Q 52H 4T 16H 8T 16H 32K 128P 128K 128P 128K 128Q 64T 288a 32K 66W 3a 55b 1a 3Y",
  "112T 64X 48W 32U 112L 15X 1P 66K 11X 3T 116M 3T 9W 48P 73M 4Q 1P 2W 10M 1P 6Q 93P 1R 65Y 48Q",
  "80P 1Q 58P 1T 20P 7Q 41P 128a 90R 1W 3R 1T 1U 32W 330P 54Q 96P 32R 56M 1U 7X 16M 48a 26Q 3T 35Q",
  "192X 160T 96P 160W 96U 132S 2U 23S 1T 18S 16X 64P 96Y 96b 64a 256R 96S 80T 304b 32T 90Y 86a 16W",
  "64U 879I 42P 103Q 99I 13P 4I 12P 2832Q 112X 1071K 1Y 9U 39Y 4000a 7424Q 1792a 576L 48P 96X 624P",
  "256a 96T 96b 69M 11U 47M 16U 81M 1R 1S 2U 14W 14b 6125R 5T 6U 8b 755R 524W 1a 9W 8935b 16X 2L",
  "285S 19X 30Y 5U 15Y 12U 2704S 4096P 250a 6b 442a 70b 256X 297E 1J 180E 11Q 23X 192H 32Y 32T 96G",
  "18I 142T 193E 1G 482E 4H 290E 4I 50E 1792Q 37X 219Y 48R 208Y 400U 48X 528U 256Y 240a 288b 32X",
  "256P 75R 5U 801R 144T 255U 512M 160J 31L 2P 31L 32P 11K 2P 3W 31K 1T 1L 1K 11L 1K 1L 1K 2L 1K",
  "3L 1K 3L 5K 8L 1K 7L 1K 10L 2M 1U 3W 9L 1K 1L 2K 2L 1K 10L 4K 2L 1K 10L 18R 57W 26L 1K 15L 34K",
  "9L 5R 16K 16L 160S 33L 12P 3Q 6L 1P 70L 1P 2Q 20L 12P 37L 1P 5L 4P 5Q 12P 17L 7P 8Q 63L 1P 1L",
  "1P 182L 1P 4L 2P 1Q 62L 2P 4M 7P 5Q 24L 18P 1R 41P 1R 86P 5L 1M 16L 1M 3L 1M 1L 1M 1L 1M 1L 1M",
  "3L 1M 6L 2M 4L 1M 1L 2M 4L 1M 12L 2P 2Q 11L 48P 70L 10P 1Q 2R 2S 1U 2W 4b 1Y 3X 20P 3R 2S 1T 1U",
  "5W 116L 3Y 4b 5Y 85P 4T 7Y 16U 16X 176P 2W 30a 48b 12S 1W 3U 9Q 6R 1S 8R 8S 1R 2S 12R 1U 12R 1S",
  "3T 15R 13S 5T 1U 1W 4T 2W 1X 1T 1U 4T 5Q 13R 6S 11T 2W 6U 3W 2U 10T 6U 1Q 2T 8U 1W 1X 3U 23S",
  "25T 84U 12b 16T 4U 1W 3Y 3U 5X 3U 4W 2Y 1a 5b 1a 6U 19W 4X 3Y 7W 4X 3Y 1a 1Y 3W 3X 2a 6b 2Y 7W",
  "3X 2Y 4a 8X 1Y 1a 6b 7X 9Y 203W 37a 10W 1028b 2B 42711E 7W 34X 4149K 4X 1Y 6b 224L 5762Q 14b",
  "7488S 3088Z 2046E 2B 4944W 4192Y 56398b 655363B 255E 65278G 131074B"]

end Orthography.Character
